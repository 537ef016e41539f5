import FreshIndex.Number.Numeral
import FreshIndex.Symbol.Roles
import FreshIndex.Text.Blank

/-!
This module contains the text of a set of roles: the names of its roles with bars between them, and
after them one hexadecimal number for the bits that have no name.
-/

namespace FreshIndex

namespace Roles

inductive TextError
  | emptyFlag
  | invalidHex (digits : String)
  | unknownName (name : String)
  deriving Repr, DecidableEq

def TextError.message : TextError → String
  | emptyFlag => "encountered empty flag"
  | invalidHex digits => "invalid hex flag `" ++ digits ++ "`"
  | unknownName name => "unrecognized named flag `" ++ name ++ "`"

def ofPart? (part : String) : Except TextError Roles :=
  match part.toList with
  | [] => .error .emptyFlag
  | '0' :: 'x' :: digits =>
    match Numeral.readNat 16 (Nat.pow 2 64 - 1) digits with
    | .ok n => .ok ⟨n.toUInt64⟩
    | .error _ => .error (.invalidHex (String.ofList digits))
  | _ =>
    match Role.all.find? (·.name == part) with
    | some role => .ok (single role)
    | none => .error (.unknownName part)

/-- The roles that a text names. A blank text names none. -/
def ofText? (text : String) : Except TextError Roles :=
  if (Text.trim text).isEmpty then
    .ok empty
  else
    (text.toList.splitOn '|').foldlM
      (fun r part => r.union <$> ofPart? (Text.trim (String.ofList part))) empty

/-- The names of the roles in `r`, and the number of the rest. -/
def toText (r : Roles) : String :=
  let present := Role.all.filter fun role => r.intersects (single role)
  let rest := present.foldl (fun rest role => rest.diff (single role)) r
  let number :=
    if rest = empty then [] else ["0x" ++ String.ofList (Nat.toDigits 16 rest.bits.toNat)]
  String.intercalate " | " (present.map Role.name ++ number)

end Roles

end FreshIndex
