/-!
This module contains the binary floating point numbers of 64 bits as exact values: a significand
below `2 ^ 53` times a power of two, or infinity. A rational number is rounded to the nearest of
them, a tie to the even significand.
-/

namespace FreshIndex

/-- A floating point number. Its value is `± significand * 2 ^ exponent`, or infinite. -/
inductive Binary64
  | finite (negative : Bool) (significand : Nat) (exponent : Int)
  | infinite (negative : Bool)
  deriving Repr, DecidableEq

namespace Binary64

def minExponent : Int := -1074

def maxExponent : Int := 971

/-- A fraction of natural numbers that stands for `n * 2 ^ e`. -/
def scale (n : Nat) (e : Int) : Nat × Nat :=
  match e with
  | .ofNat k => (n * Nat.pow 2 k, 1)
  | .negSucc k => (n, Nat.pow 2 (k + 1))

/-- A fraction of natural numbers that stands for `n * 10 ^ e`. -/
def scaleTen (n : Nat) (e : Int) : Nat × Nat :=
  match e with
  | .ofNat k => (n * Nat.pow 10 k, 1)
  | .negSucc k => (n, Nat.pow 10 (k + 1))

/-- The natural number nearest to `num / den`, the even one of two that are equally near. -/
def roundDiv (num den : Nat) : Nat :=
  let quotient := num / den
  let twice := 2 * (num % den)
  if twice < den then quotient
  else if den < twice then quotient + 1
  else if quotient % 2 = 0 then quotient
  else quotient + 1

/--
The `significand * 2 ^ exponent` that is nearest to `num / den`, where the significand has `bits`
bits. It has fewer if the exponent would otherwise be less than `lowest`.
-/
def roundTo (bits : Nat) (lowest : Int) (num den : Nat) : Nat × Int :=
  if num = 0 then
    (0, lowest)
  else
    let guess : Int := num.log2 - den.log2 - bits
    let atExponent (e : Int) : Nat × Nat :=
      let (up, down) := scale 1 (-e)
      (num * up, den * down)
    let tooFine :=
      let (n, d) := atExponent guess
      decide (Nat.pow 2 bits * d ≤ n)
    let exponent := max lowest (if tooFine then guess + 1 else guess)
    let (n, d) := atExponent exponent
    let significand := roundDiv n d
    if significand = Nat.pow 2 bits then (Nat.pow 2 (bits - 1), exponent + 1)
    else (significand, exponent)

def ofFraction (negative : Bool) (num den : Nat) : Binary64 :=
  let (significand, exponent) := roundTo 53 minExponent num den
  if maxExponent < exponent then infinite negative else finite negative significand exponent

def ofDecimal (negative : Bool) (digits : Nat) (exponent : Int) : Binary64 :=
  let (num, den) := scaleTen digits exponent
  ofFraction negative num den

def times (x : Binary64) (num den : Nat) : Binary64 :=
  match x with
  | infinite negative => infinite negative
  | finite negative significand exponent =>
    let (n, d) := scale significand exponent
    ofFraction negative (n * num) (d * den)

def isZero : Binary64 → Bool
  | finite _ significand _ => significand == 0
  | infinite _ => false

def isNegative : Binary64 → Bool
  | finite negative _ _ | infinite negative => negative

def truncate? : Binary64 → Option Int
  | infinite _ => none
  | finite negative significand exponent =>
    let (num, den) := scale significand exponent
    let magnitude : Int := (num / den : Nat)
    some (if negative then -magnitude else magnitude)

def toInt? : Binary64 → Option Int
  | infinite _ => none
  | x@(finite _ significand exponent) =>
    let (num, den) := scale significand exponent
    if num % den = 0 then x.truncate? else none

def signedNat (negative : Bool) (num : Nat) : Int :=
  if negative then -(num : Int) else num

/-- The order of the values; the two zeros are one value. -/
def compare : Binary64 → Binary64 → Ordering
  | infinite n, infinite m => Ord.compare m n
  | infinite n, _ => if n then .lt else .gt
  | _, infinite n => if n then .gt else .lt
  | finite n s e, finite m t f =>
    let (a, b) := scale s e
    let (c, d) := scale t f
    Ord.compare (signedNat n a * d) (signedNat m c * b)

def compareInt (x : Binary64) (i : Int) : Ordering :=
  match x with
  | infinite n => if n then .lt else .gt
  | finite n s e =>
    let (a, b) := scale s e
    Ord.compare (signedNat n a) (i * b)

end Binary64

end FreshIndex
