import FreshIndex.Json.Basic

/-!
This module contains the compact text of a JSON value.
-/

namespace FreshIndex

namespace Json

def escape (c : Char) : List Char :=
  if c = '"' then ['\\', '"']
  else if c = '\\' then ['\\', '\\']
  else if c.toNat < 0x20 then
    let digits := Nat.toDigits 16 c.toNat
    ['\\', 'u'] ++ List.replicate (4 - digits.length) '0' ++ digits
  else [c]

def renderString (s : String) : String :=
  String.ofList ('"' :: (s.toList.flatMap escape ++ ['"']))

def renderNumber (n : JsonNumber) : String :=
  let sign := if n.negative then "-" else ""
  let digits := toString n.mantissa
  if n.isIntegral then sign ++ digits else sign ++ digits ++ "e" ++ toString n.exponent

mutual

/-- The text of a value, without blanks. -/
def render : Json → String
  | null => "null"
  | bool b => if b then "true" else "false"
  | num n => renderNumber n
  | str s => renderString s
  | arr items => "[" ++ String.intercalate "," (renderItems items) ++ "]"
  | obj members => "\x7b" ++ String.intercalate "," (renderMembers members) ++ "\x7d"

def renderItems : List Json → List String
  | [] => []
  | item :: rest => render item :: renderItems rest

def renderMembers : List (String × Json) → List String
  | [] => []
  | (key, value) :: rest => (renderString key ++ ":" ++ render value) :: renderMembers rest

end

end Json

end FreshIndex
