import FreshIndex.Number.Decimal

/-!
This module contains JSON values. A number keeps its literal apart into its parts, since a reader
may tell `1`, `1.0` and `-0` apart, and an object keeps the order of its members.
-/

namespace FreshIndex

/-- A number literal: `± mantissa * 10 ^ exponent`, and whether it was written as an integer. -/
structure JsonNumber where
  negative : Bool
  mantissa : Nat
  exponent : Int
  isIntegral : Bool
  deriving Repr, DecidableEq

inductive Json
  | null
  | bool (b : Bool)
  | num (n : JsonNumber)
  | str (s : String)
  | arr (items : List Json)
  | obj (members : List (String × Json))
  deriving Repr

namespace JsonNumber

/-- What a number literal denotes: an integer that fits in 64 bits, or a floating point number. -/
inductive Value
  | natural (n : Nat)
  | negative (magnitude : Nat)
  | floating (x : Binary64)
  deriving Repr, DecidableEq

def ofInt (i : Int) : JsonNumber :=
  ⟨i < 0, i.natAbs, 0, true⟩

def ofBinary64? : Binary64 → Option JsonNumber
  | .infinite _ => none
  | .finite negative significand exponent =>
    if significand = 0 then
      some ⟨negative, 0, 0, false⟩
    else
      let d := Binary64.shortest significand exponent
      some ⟨negative, d.digits, d.exponent, false⟩

def toBinary64 (n : JsonNumber) : Binary64 :=
  .ofProduct n.negative n.mantissa n.exponent

/--
What the literal denotes. An integer that fits in neither the unsigned nor the signed range of 64
bits is a floating point number, and so is the negative zero.
-/
def value (n : JsonNumber) : Value :=
  if n.isIntegral then
    if n.negative then
      if n.mantissa = 0 ∨ Nat.pow 2 63 < n.mantissa then .floating n.toBinary64
      else .negative n.mantissa
    else
      if n.mantissa < Nat.pow 2 64 then .natural n.mantissa else .floating n.toBinary64
  else
    .floating n.toBinary64

def toInt? (n : JsonNumber) : Option Int :=
  if n.isIntegral then some (if n.negative then -(n.mantissa : Int) else n.mantissa) else none

end JsonNumber

namespace Json

def ofInt (i : Int) : Json :=
  num (.ofInt i)

def ofNat (n : Nat) : Json :=
  ofInt n

/-- The value of the member `key`; the last one counts when there are several. -/
def get? (value : Json) (key : String) : Option Json :=
  match value with
  | obj members => (members.reverse.find? (·.1 == key)).map (·.2)
  | _ => none

def str? : Json → Option String
  | str s => some s
  | _ => none

def bool? : Json → Option Bool
  | bool b => some b
  | _ => none

def arr? : Json → Option (List Json)
  | arr items => some items
  | _ => none

def obj? : Json → Option (List (String × Json))
  | obj members => some members
  | _ => none

def int? : Json → Option Int
  | num n => n.toInt?
  | _ => none

end Json

end FreshIndex
