import FreshIndex.Json.Basic
import FreshIndex.Number.Numeral

/-!
This module contains the reading of JSON text. The reader goes through the characters of the text
once; every call uses up a character or a unit of fuel, so the length of the text bounds its depth.
-/

namespace FreshIndex

namespace Json

namespace Reader

def isSpace (c : Char) : Bool :=
  c == ' ' || c == '\t' || c == '\n' || c == '\r'

def skipSpace (cs : List Char) : List Char :=
  cs.dropWhile isSpace

def unit? : List Char → Option (Nat × List Char)
  | a :: b :: c :: d :: rest => do
    let a ← Numeral.digit? 16 a
    let b ← Numeral.digit? 16 b
    let c ← Numeral.digit? 16 c
    let d ← Numeral.digit? 16 d
    some (((a * 16 + b) * 16 + c) * 16 + d, rest)
  | _ => none

/-- The character of an escape after `\u`; a pair of surrogates is one character. -/
def unicode? (cs : List Char) : Option (Char × List Char) := do
  let (unit, rest) ← unit? cs
  if 0xD800 ≤ unit ∧ unit < 0xDC00 then
    match rest with
    | '\\' :: 'u' :: rest => do
      let (low, rest) ← unit? rest
      if 0xDC00 ≤ low ∧ low < 0xE000 then
        some (Char.ofNat (0x10000 + (unit - 0xD800) * 0x400 + (low - 0xDC00)), rest)
      else
        none
    | _ => none
  else if 0xDC00 ≤ unit ∧ unit < 0xE000 then
    none
  else
    some (Char.ofNat unit, rest)

def escape? : List Char → Option (Char × List Char)
  | '"' :: rest => some ('"', rest)
  | '\\' :: rest => some ('\\', rest)
  | '/' :: rest => some ('/', rest)
  | 'b' :: rest => some ('\x08', rest)
  | 'f' :: rest => some ('\x0c', rest)
  | 'n' :: rest => some ('\n', rest)
  | 'r' :: rest => some ('\r', rest)
  | 't' :: rest => some ('\t', rest)
  | 'u' :: rest => unicode? rest
  | _ => none

/--
The rest of a string literal up to its closing quote; `read` holds what was read, latest first.
-/
def string? : (fuel : Nat) → (read : List Char) → (cs : List Char) → Option (String × List Char)
  | 0, _, _ => none
  | fuel + 1, read, cs =>
    match cs with
    | [] => none
    | '"' :: rest => some (String.ofList read.reverse, rest)
    | '\\' :: rest =>
      match escape? rest with
      | some (c, rest) => string? fuel (c :: read) rest
      | none => none
    | c :: rest => if c.toNat < 0x20 then none else string? fuel (c :: read) rest

def digits (cs : List Char) : List Char × List Char :=
  (cs.takeWhile Char.isDigit, cs.dropWhile Char.isDigit)

def exponent? : List Char → Option (Option Int × List Char)
  | c :: rest =>
    if c = 'e' ∨ c = 'E' then
      let (negative, rest) :=
        match rest with
        | '-' :: rest => (true, rest)
        | '+' :: rest => (false, rest)
        | _ => (false, rest)
      let (ds, rest) := digits rest
      if ds.isEmpty then none
      else
        let e : Int := Numeral.ofDigits 10 ds
        some (some (if negative then -e else e), rest)
    else
      some (none, c :: rest)
  | [] => some (none, [])

def number? (cs : List Char) : Option (JsonNumber × List Char) := do
  let (negative, cs) :=
    match cs with
    | '-' :: cs => (true, cs)
    | _ => (false, cs)
  let (whole, cs) := digits cs
  if whole.isEmpty ∨ (1 < whole.length ∧ whole.head? = some '0') then none
  let (fraction, cs) ←
    match cs with
    | '.' :: cs =>
      let (ds, cs) := digits cs
      if ds.isEmpty then none else some (ds, cs)
    | _ => some ([], cs)
  let (power, cs) ← exponent? cs
  let literal : JsonNumber :=
    { negative
      mantissa := Numeral.ofDigits 10 (whole ++ fraction)
      exponent := power.getD 0 - fraction.length
      isIntegral := fraction.isEmpty && power.isNone }
  some (literal, cs)

def after? (word : List Char) (cs : List Char) : Option (List Char) :=
  if word.isPrefixOf cs then some (cs.drop word.length) else none

mutual

def value? : (fuel : Nat) → (cs : List Char) → Option (Json × List Char)
  | 0, _ => none
  | fuel + 1, cs =>
    match skipSpace cs with
    | '"' :: rest => (string? (rest.length + 1) [] rest).map fun (s, rest) => (str s, rest)
    | '[' :: rest =>
      match skipSpace rest with
      | ']' :: rest => some (arr [], rest)
      | rest => (items? fuel [] rest).map fun (items, rest) => (arr items, rest)
    | '{' :: rest =>
      match skipSpace rest with
      | '}' :: rest => some (obj [], rest)
      | rest => (members? fuel [] rest).map fun (members, rest) => (obj members, rest)
    | 'n' :: rest => (after? ['u', 'l', 'l'] rest).map fun rest => (null, rest)
    | 't' :: rest => (after? ['r', 'u', 'e'] rest).map fun rest => (bool true, rest)
    | 'f' :: rest => (after? ['a', 'l', 's', 'e'] rest).map fun rest => (bool false, rest)
    | cs => (number? cs).map fun (n, rest) => (num n, rest)

def items? : (fuel : Nat) → (read : List Json) → (cs : List Char) → Option (List Json × List Char)
  | 0, _, _ => none
  | fuel + 1, read, cs =>
    match value? fuel cs with
    | none => none
    | some (item, rest) =>
      match skipSpace rest with
      | ',' :: rest => items? fuel (item :: read) rest
      | ']' :: rest => some ((item :: read).reverse, rest)
      | _ => none

def members? : (fuel : Nat) → (read : List (String × Json)) → (cs : List Char) →
    Option (List (String × Json) × List Char)
  | 0, _, _ => none
  | fuel + 1, read, cs =>
    match skipSpace cs with
    | '"' :: rest =>
      match string? (rest.length + 1) [] rest with
      | none => none
      | some (key, rest) =>
        match skipSpace rest with
        | ':' :: rest =>
          match value? fuel rest with
          | none => none
          | some (value, rest) =>
            match skipSpace rest with
            | ',' :: rest => members? fuel ((key, value) :: read) rest
            | '}' :: rest => some (((key, value) :: read).reverse, rest)
            | _ => none
        | _ => none
    | _ => none

end

end Reader

def parse? (text : String) : Option Json :=
  let cs := text.toList
  match Reader.value? (2 * cs.length + 2) cs with
  | some (value, rest) => if (Reader.skipSpace rest).isEmpty then some value else none
  | none => none

end Json

end FreshIndex
