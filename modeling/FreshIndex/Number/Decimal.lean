import FreshIndex.Number.Extended

/-!
This module contains what lies between floating point numbers and their decimal texts: two ways to
compute a number from decimal digits, the fewest digits that read back as a number, and a fixed
count of significant digits.
-/

namespace FreshIndex

namespace Binary64

structure Decimal where
  digits : Nat
  exponent : Int
  deriving Repr, DecidableEq

def decimalDigits (n : Nat) : List Char :=
  Nat.toDigits 10 n

/-- `d` without zeros at the end of its digits; `fuel` bounds how many are taken away. -/
def Decimal.strip : (fuel : Nat) → Decimal → Decimal
  | 0, d => d
  | fuel + 1, d =>
    if d.digits % 10 = 0 ∧ d.digits ≠ 0 then
      strip fuel ⟨d.digits / 10, d.exponent + 1⟩
    else
      d

/-- `d` without the last of its digits, as many of them as it takes to get below `limit`. -/
def Decimal.cut (limit : Nat) (d : Decimal) : Decimal :=
  if 0 < limit ∧ limit ≤ d.digits then cut limit ⟨d.digits / 10, d.exponent + 1⟩ else d
termination_by d.digits

def maxPowerOfTen : Nat := 308

def powerOfTen (n : Nat) : Nat × Nat :=
  match ofDecimal false 1 n with
  | finite _ significand exponent => scale significand exponent
  | infinite _ => (1, 0)

def overPower (x : Binary64) (n : Nat) : Binary64 :=
  let (num, den) := powerOfTen n
  x.times den num

def descend : (count : Nat) → Binary64 → Binary64
  | 0, x => x
  | count + 1, x => descend count (x.overPower maxPowerOfTen)

/--
The number that is computed from `± digits * 10 ^ exponent` by one multiplication or division: the
digits, as many of them as fit in 64 bits, the power of ten and the result are each rounded. So the
result may be next to the nearest number. Three divisions by the greatest power of ten always end at
zero.
-/
def ofProduct (negative : Bool) (digits : Nat) (exponent : Int) : Binary64 :=
  let d := Decimal.cut (Nat.pow 2 64) ⟨digits, exponent⟩
  let x := ofFraction negative d.digits 1
  match d.exponent with
  | .negSucc n => (descend (min (n / maxPowerOfTen) 3) x).overPower (n % maxPowerOfTen + 1)
  | .ofNat n =>
    if maxPowerOfTen < n then
      if x.isZero then x else infinite negative
    else
      let (num, den) := powerOfTen n
      x.times num den

/-- The least number whose last digit is left away in `ofExtended`. -/
def extendedLimit : Nat := 18446744073709551600

def Decimal.spread : (fuel : Nat) → Decimal → Decimal
  | 0, d => d
  | fuel + 1, d =>
    if 0 < d.exponent ∧ d.digits < (Nat.pow 2 64 - 1) / 10 then
      spread fuel ⟨d.digits * 10, d.exponent - 1⟩
    else
      d

def Decimal.gather : (fuel : Nat) → Decimal → Decimal
  | 0, d => d
  | fuel + 1, d =>
    if d.exponent < 0 ∧ d.digits % 10 = 0 then gather fuel ⟨d.digits / 10, d.exponent + 1⟩ else d

/--
The number that is computed from `± digits * 10 ^ exponent` in numbers of 64 significant bits. So
the result may be next to the nearest number.
-/
def ofExtended (negative : Bool) (digits : Nat) (exponent : Int) : Binary64 :=
  let d := ((Decimal.cut extendedLimit ⟨digits, exponent⟩).spread 20).gather 20
  if d.digits = 0 then finite negative 0 minExponent
  else (Extended.shift d.exponent (.ofFraction d.digits 1)).toBinary64 negative

/-- The `e` with `10 ^ e ≤ num / den < 10 ^ (e + 1)`, for positive parts. -/
def decimalOrder (num den : Nat) : Int :=
  let guess : Int := (decimalDigits num).length - (decimalDigits den).length
  let (n, d) := scaleTen 1 guess
  if n * den ≤ num * d then guess else guess - 1

def Decimal.between (d : Decimal) (lo hi : Nat × Nat) (ends : Bool) : Bool :=
  let (num, den) := scaleTen d.digits d.exponent
  if ends then
    lo.1 * den ≤ num * lo.2 && num * hi.2 ≤ hi.1 * den
  else
    lo.1 * den < num * lo.2 && num * hi.2 < hi.1 * den

/--
The decimal number with the fewest digits that rounds to the positive number
`significand * 2 ^ exponent`, and of several the nearest.
-/
def shortest (significand : Nat) (exponent : Int) : Decimal :=
  let (num, den) := scale significand exponent
  let order := decimalOrder num den
  -- Quarters of the distance to the next number bound what rounds to this one.
  let lo := scale
    (if significand = Nat.pow 2 52 ∧ exponent ≠ minExponent then 4 * significand - 1
      else 4 * significand - 2)
    (exponent - 2)
  let hi := scale (4 * significand + 2) (exponent - 2)
  let ends := significand % 2 = 0
  let withDigits (n : Nat) : Option Decimal :=
    let place := order - (n - 1)
    let (up, down) := scaleTen 1 (-place)
    let below := num * up / (den * down)
    let rest := num * up % (den * down)
    let lower : Decimal := ⟨below, place⟩
    let upper : Decimal := ⟨below + 1, place⟩
    match lower.between lo hi ends, upper.between lo hi ends with
    | true, true =>
      let twice := 2 * rest
      if twice < den * down ∨ (twice = den * down ∧ below % 2 = 0) then some lower else some upper
    | true, false => some lower
    | false, true => some upper
    | false, false => none
  let found := (List.range 17).findSome? fun n => withDigits (n + 1)
  (found.getD ⟨significand, 0⟩).strip 400

def zeros (n : Nat) : List Char :=
  List.replicate n '0'

/--
The shortest text of a number that shows it to be no integer: a point is always there, save before
an exponent, which is written from `10 ^ 16` on and below `10 ^ (-5)`.
-/
def shortestText : Binary64 → String
  | infinite negative => if negative then "-inf" else "inf"
  | finite negative significand exponent =>
    let magnitude :=
      if significand = 0 then
        ['0', '.', '0']
      else
        let d := shortest significand exponent
        let digits := decimalDigits d.digits
        let point : Int := digits.length + d.exponent
        if 0 ≤ d.exponent ∧ point ≤ 16 then
          digits ++ zeros d.exponent.toNat ++ ['.', '0']
        else if 0 < point ∧ point ≤ 16 then
          digits.take point.toNat ++ '.' :: digits.drop point.toNat
        else if -5 < point ∧ point ≤ 0 then
          ['0', '.'] ++ zeros (-point).toNat ++ digits
        else
          let power := (if point < 1 then ['-'] else ['+']) ++ decimalDigits (point - 1).natAbs
          match digits with
          | [d] => d :: 'e' :: power
          | d :: rest => d :: '.' :: (rest ++ 'e' :: power)
          | [] => []
    String.ofList (if negative then '-' :: magnitude else magnitude)

def exponentText (e : Int) : List Char :=
  let digits := decimalDigits e.natAbs
  (if e < 0 then '-' else '+') :: (zeros (2 - digits.length) ++ digits)

/--
The positive number `significand * 2 ^ exponent` as a decimal number of eighteen or nineteen digits,
the last of which may be wrong.
-/
def approximation (significand : Nat) (exponent : Int) : Decimal :=
  let (num, den) := scale significand exponent
  let s := (⟨.ofFraction num den, 0⟩ : Extended.Scaled).normalize
  ⟨s.factor.truncate, s.power⟩

/-- A decimal number of at least fifteen digits rounded to that many, a half away from zero. -/
def Decimal.significant (d : Decimal) : Decimal :=
  let more := (decimalDigits d.digits).length - 15
  Decimal.strip 400 ⟨(2 * d.digits + Nat.pow 10 more) / (2 * Nat.pow 10 more), d.exponent + more⟩

/--
The text of a number with up to fifteen significant digits: zeros at the end are dropped, but one
digit always follows the point. An exponent is written from `10 ^ 15` on and below `10 ^ (-4)`.
-/
def significantText : Binary64 → String
  | infinite negative => if negative then "-Inf" else "Inf"
  | finite negative significand exponent =>
    if significand = 0 then
      "0.0"
    else
      let d := (approximation significand exponent).significant
      let digits := decimalDigits d.digits
      let order : Int := digits.length + d.exponent - 1
      let fractional (cs : List Char) : List Char := if cs.isEmpty then ['0'] else cs
      let magnitude :=
        if order < -4 ∨ 14 < order then
          digits.take 1 ++ '.' :: (fractional (digits.drop 1) ++ 'e' :: exponentText order)
        else if order < 0 then
          ['0', '.'] ++ zeros (-order - 1).toNat ++ digits
        else
          let whole := (order + 1).toNat
          let padded := digits ++ zeros (whole - digits.length)
          padded.take whole ++ '.' :: fractional (padded.drop whole)
      String.ofList (if negative then '-' :: magnitude else magnitude)

end Binary64

end FreshIndex
