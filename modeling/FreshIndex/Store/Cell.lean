import FreshIndex.Number.Decimal
import FreshIndex.Number.Numeral
import FreshIndex.Store.Error

/-!
This module contains the values in the cells of a table. A column has an affinity: a value that is
put into it, or compared with it, is converted if nothing is lost.
-/

namespace FreshIndex.Store

inductive Cell
  | null
  | integer (n : Int64)
  | real (x : Binary64)
  | text (s : String)
  /-- A text whose octets are no UTF-8. -/
  | malformed (m : Text.Malformed)
  | blob (octets : Text.Octets)
  deriving Repr, DecidableEq

namespace Cell

def type : Cell → CellType
  | null => .null
  | integer _ => .integer
  | real _ => .real
  | text _ => .text
  | malformed _ => .text
  | blob _ => .blob

/-- The integer nearest to `i` within the range of 64 bits. -/
def clamped (i : Int) : Int64 :=
  .ofInt (max Int64.minValue.toInt (min i Int64.maxValue.toInt))

def fits (i : Int) : Bool :=
  Int64.minValue.toInt ≤ i && i ≤ Int64.maxValue.toInt

namespace Numeric

/-- A number that a text spells: `± mantissa * 10 ^ exponent`, and whether it has digits only. -/
structure Spelled where
  negative : Bool
  mantissa : Nat
  exponent : Int
  isIntegral : Bool

def isSpace (c : Char) : Bool :=
  c == ' ' || ('\t' ≤ c && c ≤ '\r')

def sign : (cs : List Char) → Bool × List Char
  | '-' :: rest => (true, rest)
  | '+' :: rest => (false, rest)
  | rest => (false, rest)

def maxExponent : Nat := 10000

def spelled? (s : String) : Option Spelled :=
  let cs := ((s.toList.dropWhile isSpace).reverse.dropWhile isSpace).reverse
  let (negative, cs) := sign cs
  let whole := cs.takeWhile Char.isDigit
  let cs := cs.dropWhile Char.isDigit
  let (hasPoint, cs) :=
    match cs with
    | '.' :: rest => (true, rest)
    | _ => (false, cs)
  let fraction := if hasPoint then cs.takeWhile Char.isDigit else []
  let cs := if hasPoint then cs.dropWhile Char.isDigit else cs
  let mantissa := Numeral.ofDigits 10 (whole ++ fraction)
  if whole.isEmpty && fraction.isEmpty then none
  else
    match cs with
    | [] => some ⟨negative, mantissa, -(fraction.length : Int), !hasPoint⟩
    | e :: rest =>
      let (below, digits) := sign rest
      if (e == 'e' || e == 'E') && !digits.isEmpty && digits.all Char.isDigit then
        let power : Int := min (Numeral.ofDigits 10 digits) maxExponent
        let exponent := (if below then -power else power) - fraction.length
        some ⟨negative, mantissa, exponent, false⟩
      else
        none

/-- A number as the value of a cell: an integer if it is written as one and fits, else a real. -/
def Spelled.toCell (n : Spelled) : Cell :=
  let i : Int := if n.negative then -(n.mantissa : Int) else n.mantissa
  if n.isIntegral && fits i then integer (.ofInt i)
  else real (.ofExtended n.negative n.mantissa n.exponent)

end Numeric

/-- A real as an integer, if it is one and lies inside the range of 64 bits. -/
def ofReal (x : Binary64) : Cell :=
  match x.toInt? with
  | some i =>
    if Int64.minValue.toInt < i ∧ i < Int64.maxValue.toInt then integer (.ofInt i) else real x
  | none => real x

/-- The value in a column of numbers: an integer if it is or spells one, a real if it spells one. -/
def toNumber : Cell → Cell
  | real x => ofReal x
  | text s =>
    match (Numeric.spelled? s).map Numeric.Spelled.toCell with
    | some (real x) => ofReal x
    | some number => number
    | none => text s
  | other => other

/-- The value in a column of texts: a number is written out. -/
def toText : Cell → Cell
  | integer n => text (toString n.toInt)
  | real x => text x.significantText
  | other => other

/-- Whether two values are one. Nothing is the same as null. -/
def same : Cell → Cell → Bool
  | integer n, integer m => n == m
  | integer n, real x | real x, integer n => x.compareInt n.toInt == .eq
  | real x, real y => x.compare y == .eq
  | text s, text t => s == t
  | malformed m, malformed n => m.octets == n.octets
  | blob b, blob c => b == c
  | _, _ => false

/-- The order of values: null, then numbers, then texts, then blobs. -/
def order : Cell → Cell → Ordering
  | null, null => .eq
  | null, _ => .lt
  | _, null => .gt
  | integer n, integer m => compare n.toInt m.toInt
  | integer n, real x => (x.compareInt n.toInt).swap
  | real x, integer n => x.compareInt n.toInt
  | real x, real y => x.compare y
  | blob b, blob c => compare b c
  | blob _, _ => .gt
  | _, blob _ => .lt
  | text s, text t => compare s t
  | text s, malformed m => compare (Text.octets s) m.octets
  | malformed m, text s => compare m.octets (Text.octets s)
  | malformed m, malformed n => compare m.octets n.octets
  | text _, _ => .gt
  | malformed _, _ => .gt
  | _, text _ => .lt
  | _, malformed _ => .lt

/-- The integer that a text starts with, as near as 64 bits allow. -/
def leadingInteger (cs : List Char) : Int64 :=
  let (negative, cs) := Numeric.sign (cs.dropWhile Numeric.isSpace)
  let magnitude : Int := Numeral.ofDigits 10 (cs.takeWhile Char.isDigit)
  clamped (if negative then -magnitude else magnitude)

/-- Octets as the characters of a text. What is no ASCII belongs to no number. -/
def characters (bs : Text.Octets) : List Char :=
  bs.map fun b => Char.ofNat b.toNat

/--
The value as bits. A real loses its fraction, a text or a blob all but the integer that it starts
with.
-/
def bits : Cell → Int64
  | null => 0
  | integer n => n
  | real x =>
    match x.truncate? with
    | some i => clamped i
    | none => if x.isNegative then Int64.minValue else Int64.maxValue
  | text s => leadingInteger s.toList
  | malformed m => leadingInteger (characters m.octets)
  | blob b => leadingInteger (characters b)

def readText (column : AnswerColumn) : Cell → Except StoreError String
  | text s => .ok s
  | malformed m => .error (.notUtf8 column (Text.firstFlaw 0 m.octets))
  | other => .error (.wrongType other.type column)

def readInteger (column : AnswerColumn) : Cell → Except StoreError Int64
  | integer n => .ok n
  | other => .error (.wrongType other.type column)

def readWord (column : AnswerColumn) (c : Cell) : Except StoreError UInt32 := do
  let n ← readInteger column c
  if 0 ≤ n.toInt ∧ n.toInt < Int.pow 2 32 then
    return n.toInt.toNat.toUInt32
  else
    throw (.outOfRange n.toInt column.index)

/-- The truth value of a cell in a column of an answer: any integer but zero is true. -/
def readFlag (column : AnswerColumn) (c : Cell) : Except StoreError Bool := do
  return (← readInteger column c) ≠ 0

end Cell

end FreshIndex.Store
