/-!
This module contains the reading of whole numbers from text: an optional sign, then digits only.
-/

namespace FreshIndex

inductive NumeralError
  | empty
  | invalidDigit
  | tooLarge
  | tooSmall
  deriving Repr, DecidableEq

namespace NumeralError

def message : NumeralError → String
  | empty => "cannot parse integer from empty string"
  | invalidDigit => "invalid digit found in string"
  | tooLarge => "number too large to fit in target type"
  | tooSmall => "number too small to fit in target type"

end NumeralError

namespace Numeral

def digit? (base : Nat) (c : Char) : Option Nat :=
  let value :=
    if '0' ≤ c ∧ c ≤ '9' then some (c.toNat - '0'.toNat)
    else if 'a' ≤ c ∧ c ≤ 'f' then some (c.toNat - 'a'.toNat + 10)
    else if 'A' ≤ c ∧ c ≤ 'F' then some (c.toNat - 'A'.toNat + 10)
    else none
  value.filter (· < base)

def ofDigits (base : Nat) (digits : List Char) : Nat :=
  digits.foldl (fun n c => n * base + (digit? base c).getD 0) 0

/--
The number that `digits` spell after `value`, as long as it stays within `limit`. The first fault
from the left is the one reported.
-/
def readDigits (base limit : Nat) (overflow : NumeralError) (value : Nat) :
    (digits : List Char) → Except NumeralError Nat
  | [] => .ok value
  | c :: rest =>
    match digit? base c with
    | none => .error .invalidDigit
    | some d =>
      let value := value * base + d
      if value ≤ limit then readDigits base limit overflow value rest else .error overflow

/-- The natural number up to `limit` that `cs` spell in `base`. A plus sign may stand in front. -/
def readNat (base limit : Nat) (cs : List Char) : Except NumeralError Nat :=
  match cs with
  | [] => .error .empty
  | ['+'] => .error .invalidDigit
  | '+' :: digits => readDigits base limit .tooLarge 0 digits
  | digits => readDigits base limit .tooLarge 0 digits

/-- The integer from `-(limit + 1)` to `limit` that `cs` spell. A sign may stand in front. -/
def readInt (limit : Nat) (cs : List Char) : Except NumeralError Int :=
  match cs with
  | [] => .error .empty
  | ['-'] => .error .invalidDigit
  | '-' :: digits => (readDigits 10 (limit + 1) .tooSmall 0 digits).map fun n => -(n : Int)
  | _ => (readNat 10 limit cs).map Int.ofNat

end Numeral

end FreshIndex
