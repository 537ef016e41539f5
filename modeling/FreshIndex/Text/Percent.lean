import FreshIndex.Number.Numeral
import FreshIndex.Text.Utf8

/-!
This module contains percent encoding: an octet of a set, and every octet that is not ASCII, is
written as a percent sign and two hexadecimal digits.
-/

namespace FreshIndex.Text.Percent

def hexDigit (n : Nat) : Char :=
  if n < 10 then Char.ofNat ('0'.toNat + n) else Char.ofNat ('A'.toNat + (n - 10))

def encodeOctet (escaped : Char → Bool) (b : UInt8) : List Char :=
  let c := Char.ofNat b.toNat
  if 0x80 ≤ b || escaped c then
    ['%', hexDigit (b.toNat / 16), hexDigit (b.toNat % 16)]
  else
    [c]

def encodeOctets (escaped : Char → Bool) (bs : Octets) : List Char :=
  bs.flatMap (encodeOctet escaped)

def encode (escaped : Char → Bool) (cs : List Char) : List Char :=
  encodeOctets escaped (cs.flatMap String.utf8EncodeChar)

/-- The octets that `cs` stands for. A percent sign without two digits stands for itself. -/
def decode : (cs : List Char) → Octets
  | [] => []
  | '%' :: a :: b :: rest =>
    match Numeral.digit? 16 a, Numeral.digit? 16 b with
    | some x, some y => (x * 16 + y).toUInt8 :: decode rest
    | _, _ => String.utf8EncodeChar '%' ++ decode (a :: b :: rest)
  | c :: rest => String.utf8EncodeChar c ++ decode rest

def control (c : Char) : Bool :=
  c.toNat < 0x20 || c.toNat = 0x7F

def fragment (c : Char) : Bool :=
  control c || c == ' ' || c == '"' || c == '<' || c == '>' || c == '`'

def path (c : Char) : Bool :=
  fragment c || c == '#' || c == '?' || c == '{' || c == '}'

/-- What is escaped in a segment of a path, so that it stays one segment and is read back. -/
def segment (c : Char) : Bool :=
  path c || c == '/' || c == '%' || c == '\\'

def userInfo (c : Char) : Bool :=
  path c || c == '/' || c == ':' || c == ';' || c == '=' || c == '@' || c == '[' || c == '\\' ||
    c == ']' || c == '^' || c == '|'

def query (c : Char) : Bool :=
  control c || c == ' ' || c == '"' || c == '#' || c == '<' || c == '>'

def specialQuery (c : Char) : Bool :=
  query c || c == '\''

end FreshIndex.Text.Percent
