import FreshIndex.Json.Basic
import FreshIndex.Number.Decimal
import FreshIndex.Text.Quoted
import FreshIndex.Text.Utf8

/-!
This module contains the reading of data from JSON values: of scalars, of sequences and of records.
A record is an object or the array of its fields. The members of an object are read in the order of
their names, and the first fault found is the one reported.
-/

namespace FreshIndex

inductive DecodeError
  | invalidType (found : Json) (expected : String)
  | invalidValue (found : Json) (expected : String)
  | invalidLength (length : Nat) (expected : String)
  | missingField (name : String)
  | unknownField (name : String) (expected : List String)
  | unknownVariant (name : String) (expected : List String)
  | other (message : String)

namespace DecodeError

def describe : Json → String
  | .null => "null"
  | .bool b => "boolean `" ++ toString b ++ "`"
  | .num n =>
    match n.value with
    | .natural n => "integer `" ++ toString n ++ "`"
    | .negative n => "integer `-" ++ toString n ++ "`"
    | .floating x => "floating point `" ++ x.shortestText ++ "`"
  | .str s => "string " ++ Text.quoted s
  | .arr _ => "sequence"
  | .obj _ => "map"

def ticked (name : String) : String :=
  "`" ++ name ++ "`"

def alternatives : List String → String
  | [a] => ticked a
  | [a, b] => ticked a ++ " or " ++ ticked b
  | names => "one of " ++ String.intercalate ", " (names.map ticked)

def message : DecodeError → String
  | invalidType found expected => "invalid type: " ++ describe found ++ ", expected " ++ expected
  | invalidValue found expected => "invalid value: " ++ describe found ++ ", expected " ++ expected
  | invalidLength length expected =>
    "invalid length " ++ toString length ++ ", expected " ++ expected
  | missingField name => "missing field " ++ ticked name
  | unknownField name expected =>
    "unknown field " ++ ticked name ++ ", expected " ++ alternatives expected
  | unknownVariant name expected =>
    "unknown variant " ++ ticked name ++ ", expected " ++ alternatives expected
  | other message => message

end DecodeError

namespace Decode

def string : Json → Except DecodeError String
  | .str s => .ok s
  | found => .error (.invalidType found "a string")

def boolean : Json → Except DecodeError Bool
  | .bool b => .ok b
  | found => .error (.invalidType found "a boolean")

def natural (width : Nat) (value : Json) : Except DecodeError Nat :=
  let expected := "u" ++ toString width
  match value with
  | .num literal =>
    match literal.value with
    | .natural n => if n < Nat.pow 2 width then .ok n else .error (.invalidValue value expected)
    | .negative _ => .error (.invalidValue value expected)
    | .floating _ => .error (.invalidType value expected)
  | _ => .error (.invalidType value expected)

def sequence {α : Type} (item : Json → Except DecodeError α) (value : Json) :
    Except DecodeError (List α) :=
  match value with
  | .arr items => items.mapM item
  | found => .error (.invalidType found "a sequence")

/-- The members of an object in the order of their names; of members of one name the last counts. -/
def membersInOrder (members : List (String × Json)) : List (String × Json) :=
  let ascending :=
    members.mergeSort fun a b => (compare (Text.octets a.1) (Text.octets b.1)).isLE
  ascending.foldr
    (fun member rest =>
      match rest with
      | next :: _ => if member.1 = next.1 then rest else member :: rest
      | [] => [member])
    []

structure Shape where
  name : String
  fields : List String
  isOpen : Bool

def Shape.elements (shape : Shape) : String :=
  if shape.isOpen then
    "struct " ++ shape.name ++ " with " ++ toString shape.fields.length ++ " elements"
  else
    "struct " ++ shape.name

/--
The record that results when `set` puts the value of every field into `start`. That a field is
missing is reported after all faults in fields that are there.
-/
def record {ρ : Type} (shape : Shape) (set : String → Json → ρ → Except DecodeError ρ) (start : ρ)
    (value : Json) : Except DecodeError ρ :=
  match value with
  | .arr items => do
    let r ← (shape.fields.zip items).foldlM (fun r (field, item) => set field item r) start
    if items.length < shape.fields.length then
      .error (.invalidLength items.length shape.elements)
    else
      return r
  | .obj members => do
    let r ← (membersInOrder members).foldlM
      (fun r (field, item) =>
        if shape.fields.contains field then set field item r
        else if shape.isOpen then pure r
        else .error (.unknownField field shape.fields))
      start
    match shape.fields.find? fun field => !members.any (·.1 == field) with
    | some field => .error (.missingField field)
    | none => return r
  | found => .error (.invalidType found ("struct " ++ shape.name))

def atMost {ρ : Type} (count : Nat) (value : Json) (r : ρ) : Except DecodeError ρ :=
  match value with
  | .arr items =>
    if count < items.length then .error (.invalidLength items.length "fewer elements in array")
    else .ok r
  | _ => .ok r

/-- A record, an array in place of which has exactly as many items as there are fields. -/
def wholeRecord {ρ : Type} (shape : Shape) (set : String → Json → ρ → Except DecodeError ρ)
    (start : ρ) (value : Json) : Except DecodeError ρ :=
  record shape set start value >>= atMost shape.fields.length value

end Decode

end FreshIndex
