import FreshIndex.Number.Binary64

/-!
This module contains positive numbers of 64 significant bits, whose exponents go far beyond those of
`Binary64`. A database computes with them between binary numbers and decimal texts, multiplying by
one power of ten after the other.
-/

namespace FreshIndex

/-- A number `significand * 2 ^ exponent` that is not negative. -/
structure Extended where
  significand : Nat
  exponent : Int
  deriving Repr, DecidableEq

namespace Extended

open Binary64

def precision : Nat := 64

def minExponent : Int := -16445

def ofFraction (num den : Nat) : Extended :=
  let (significand, exponent) := roundTo precision minExponent num den
  ⟨significand, exponent⟩

def toFraction (x : Extended) : Nat × Nat :=
  scale x.significand x.exponent

def mul (x y : Extended) : Extended :=
  let (a, b) := x.toFraction
  let (c, d) := y.toFraction
  ofFraction (a * c) (b * d)

def le (x y : Extended) : Bool :=
  let (a, b) := x.toFraction
  let (c, d) := y.toFraction
  a * d ≤ c * b

def tenTo (e : Int) : Extended :=
  let (num, den) := scaleTen 1 e
  ofFraction num den

def truncate (x : Extended) : Nat :=
  let (num, den) := x.toFraction
  num / den

/-- The number in 53 bits with the given sign. What is larger than all of those is infinite. -/
def toBinary64 (negative : Bool) (x : Extended) : Binary64 :=
  let largest : Extended := ⟨Nat.pow 2 53 - 1, maxExponent⟩
  if x.le largest then
    let (num, den) := x.toFraction
    Binary64.ofFraction negative num den
  else
    infinite negative

structure Scaled where
  factor : Extended
  power : Int

namespace Scaled

/--
The same number, about, with a factor below `10 ^ limit`: the factor is divided by `10 ^ step` as
often as it takes, but at most `fuel` times.
-/
def lower (limit : Int) (step : Nat) : (fuel : Nat) → Scaled → Scaled
  | 0, s => s
  | fuel + 1, s =>
    if (tenTo limit).le s.factor then
      lower limit step fuel ⟨s.factor.mul (tenTo (-step)), s.power + step⟩
    else
      s

/--
The same number, about, with a factor that is not below `10 ^ limit`: the factor is multiplied by
`10 ^ step` as often as it takes, but at most `fuel` times.
-/
def raise (limit : Int) (step : Nat) : (fuel : Nat) → Scaled → Scaled
  | 0, s => s
  | fuel + 1, s =>
    if (tenTo limit).le s.factor then
      s
    else
      raise limit step fuel ⟨s.factor.mul (tenTo step), s.power - step⟩

def normalize (s : Scaled) : Scaled :=
  if (tenTo 19).le s.factor then
    ((s.lower 119 100 50).lower 29 10 10).lower 19 1 10
  else
    ((s.raise (-97) 100 50).raise 7 10 11).raise 17 1 11

end Scaled

def climb (step : Int) : (count : Nat) → Extended → Extended
  | 0, x => x
  | count + 1, x => climb step count (x.mul (tenTo step))

/-- A number times `10 ^ power`, by factors of `10 ^ 100`, `10 ^ 10` and `10` or their inverses. -/
def shift (power : Int) (x : Extended) : Extended :=
  let n := power.natAbs
  let step (k : Int) : Int := if power < 0 then -k else k
  climb (step 1) (n % 10) (climb (step 10) (n % 100 / 10) (climb (step 100) (n / 100) x))

end Extended

end FreshIndex
