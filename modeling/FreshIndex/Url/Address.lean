import FreshIndex.Number.Numeral

/-!
This module contains internet addresses in the host of a URL: their reading, which for addresses of
four octets admits octal and hexadecimal numbers and omitted parts, and their text.
-/

namespace FreshIndex.Url

namespace Ipv4

/-- What a part of an address is: a number, one that is too large, or no number. -/
inductive Part
  | number (n : Nat)
  | tooLarge
  | noNumber
  deriving Repr, DecidableEq

def ofDigits (base : Nat) (digits : List Char) : Part :=
  match Numeral.readDigits base (Nat.pow 2 32 - 1) .tooLarge 0 digits with
  | .ok n => .number n
  | .error _ => if digits.all (Numeral.digit? base · |>.isSome) then .tooLarge else .noNumber

/-- What a part of an address is. A zero in front stands for octal, `0x` for hexadecimal. -/
def part : (cs : List Char) → Part
  | [] => .noNumber
  | '0' :: 'x' :: digits => ofDigits 16 digits
  | '0' :: 'X' :: digits => ofDigits 16 digits
  | '0' :: c :: digits => ofDigits 8 (c :: digits)
  | digits => ofDigits 10 digits

def parts (cs : List Char) : List (List Char) :=
  let ps := cs.splitOn '.'
  if ps.getLast? = some [] then ps.dropLast else ps

def endsInNumber (cs : List Char) : Bool :=
  match (parts cs).getLast? with
  | none => false
  | some last => (!last.isEmpty && last.all Char.isDigit) || part last != .noNumber

/-- The address that a host spells. The last number fills the octets that are left. -/
def parse? (cs : List Char) : Option Nat := do
  let ps := parts cs
  if 4 < ps.length then none
  let numbers ← ps.mapM fun p =>
    match part p with
    | .number n => some n
    | _ => none
  let last ← numbers.getLast?
  let heads := numbers.dropLast
  if last < Nat.pow 2 (8 * (4 - heads.length)) ∧ heads.all (· ≤ 255) then
    some (heads.zipIdx.foldl (fun sum (n, i) => sum + n * Nat.pow 2 (8 * (3 - i))) last)
  else
    none

def text (address : Nat) : List Char :=
  let octet (i : Nat) : List Char := Nat.toDigits 10 (address / Nat.pow 2 (8 * (3 - i)) % 256)
  ['.'].intercalate [octet 0, octet 1, octet 2, octet 3]

end Ipv4

namespace Ipv6

/-- One octet of an address of four octets at the end: no zero may stand in front. -/
def decimalOctet? (cs : List Char) : Option (Nat × List Char) :=
  let digits := cs.takeWhile Char.isDigit
  let value := Numeral.ofDigits 10 digits
  if digits.isEmpty ∨ (1 < digits.length ∧ digits.head? = some '0') ∨ 255 < value then none
  else some (value, cs.drop digits.length)

/-- The two pieces that an address of four octets at the end makes up. -/
def embedded? (cs : List Char) : Option (List Nat) := do
  let (a, cs) ← decimalOctet? cs
  let cs ← point cs
  let (b, cs) ← decimalOctet? cs
  let cs ← point cs
  let (c, cs) ← decimalOctet? cs
  let cs ← point cs
  let (d, cs) ← decimalOctet? cs
  if cs.isEmpty then some [a * 256 + b, c * 256 + d] else none
where
  point : List Char → Option (List Char)
    | '.' :: rest => some rest
    | _ => none

/-- The pieces read so far, latest first, and the number of them before a double colon. -/
structure Progress where
  pieces : List Nat
  gap : Option Nat

/-- How many of the eight places are taken; a double colon takes one. -/
def Progress.taken (p : Progress) : Nat :=
  p.pieces.length + if p.gap.isSome then 1 else 0

/-- Reads the pieces of `cs` after those of `p`; every piece uses up one unit of fuel. -/
def pieces? : (fuel : Nat) → (p : Progress) → (cs : List Char) → Option Progress
  | _, p, [] => some p
  | 0, _, _ => none
  | fuel + 1, p, cs =>
    if p.taken = 8 then none
    else
      match cs with
      | ':' :: rest =>
        if p.gap.isSome then none else pieces? fuel { p with gap := some p.pieces.length } rest
      | _ =>
        let digits := (cs.take 4).takeWhile (Numeral.digit? 16 · |>.isSome)
        let value := Numeral.ofDigits 16 digits
        let p' : Progress := { p with pieces := value :: p.pieces }
        match cs.drop digits.length with
        | [] => some p'
        | '.' :: _ =>
          if digits.isEmpty ∨ 6 < p.taken then none
          else (embedded? cs).map fun last => { p with pieces := last.reverse ++ p.pieces }
        | ':' :: [] => none
        | ':' :: rest => pieces? fuel p' rest
        | _ => none

def parse? (cs : List Char) : Option (List Nat) := do
  let start ←
    match cs with
    | ':' :: ':' :: rest => some (⟨[], some 0⟩, rest)
    | ':' :: _ => none
    | _ => some (⟨[], none⟩, cs)
  let p ← pieces? (cs.length + 1) start.1 start.2
  let pieces := p.pieces.reverse
  match p.gap with
  | none => if pieces.length = 8 then some pieces else none
  | some gap =>
    some (pieces.take gap ++ List.replicate (8 - pieces.length) 0 ++ pieces.drop gap)

def zeroRun (pieces : List Nat) : Nat :=
  (pieces.takeWhile (· = 0)).length

/-- The first longest run of at least two zeros: where it starts, and its length. -/
def longestZeroRun? (pieces : List Nat) : Option (Nat × Nat) :=
  (List.range pieces.length).foldl
    (fun best i =>
      let run := zeroRun (pieces.drop i)
      if 2 ≤ run ∧ (best.map (·.2)).getD 0 < run then some (i, run) else best)
    none

def joined (pieces : List Nat) : List Char :=
  [':'].intercalate (pieces.map (Nat.toDigits 16))

/-- The text of an address: the first longest run of zeros is left out. -/
def text (pieces : List Nat) : List Char :=
  match longestZeroRun? pieces with
  | none => joined pieces
  | some (start, run) =>
    joined (pieces.take start) ++ [':', ':'] ++ joined (pieces.drop (start + run))

end Ipv6

end FreshIndex.Url
