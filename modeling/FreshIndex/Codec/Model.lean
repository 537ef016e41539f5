import FreshIndex.Codec.Decode
import FreshIndex.Pattern
import FreshIndex.Symbol.Occurrence
import FreshIndex.Symbol.RolesText

/-!
This module contains the JSON forms of symbols, occurrences and pattern options. A kind is written
by its name, roles by their text, and a moment by its seconds and nanoseconds, so that only moments
from the start of 1970 on have a form.
-/

namespace FreshIndex

open Decode

namespace SymbolKind

/-- The kind that a name or an object with a name as its only key stands for. -/
def decode (value : Json) : Except DecodeError SymbolKind := do
  let (name, content) ←
    match value with
    | .str name => pure (name, none)
    | .obj members =>
      match membersInOrder members with
      | [(name, content)] => pure (name, some content)
      | _ => .error (.invalidValue value "map with a single key")
    | found => .error (.invalidType found "string or map")
  match all.find? (·.name == name) with
  | none => .error (.unknownVariant name (all.map SymbolKind.name))
  | some kind =>
    match content with
    | none | some .null => return kind
    | some found => .error (.invalidType found "unit")

def encode (kind : SymbolKind) : Json :=
  .str kind.name

end SymbolKind

namespace Roles

def decode : Json → Except DecodeError Roles
  | .str text => (ofText? text).mapError fun cause => .other cause.message
  | found => .error (.invalidType found "a string value of `|` separated flags")

def encode (r : Roles) : Json :=
  .str r.toText

end Roles

namespace Symbol

def decode : Json → Except DecodeError Symbol :=
  wholeRecord ⟨"Symbol", ["usr", "name", "kind"], true⟩
    (fun field value s =>
      match field with
      | "usr" => return { s with usr := ← string value }
      | "name" => return { s with name := ← string value }
      | _ => return { s with kind := ← SymbolKind.decode value })
    ⟨"", "", .other⟩

def encode (s : Symbol) : Json :=
  .obj [("usr", .str s.usr), ("name", .str s.name), ("kind", s.kind.encode)]

end Symbol

namespace Relation

def decode : Json → Except DecodeError Relation :=
  wholeRecord ⟨"SymbolRelation", ["symbol", "roles"], true⟩
    (fun field value r =>
      match field with
      | "symbol" => return { r with symbol := ← Symbol.decode value }
      | _ => return { r with roles := ← Roles.decode value })
    ⟨⟨"", "", .other⟩, .empty⟩

def encode (r : Relation) : Json :=
  .obj [("symbol", r.symbol.encode), ("roles", r.roles.encode)]

end Relation

namespace Timestamp

/-- The moment of a form. Its whole seconds fit in 64 bits, and in 63 to be a moment. -/
def decode (value : Json) : Except DecodeError Timestamp := do
  let (seconds, nanoseconds) ←
    record ⟨"SystemTime", ["secs_since_epoch", "nanos_since_epoch"], false⟩
      (fun field value (r : Nat × Nat) =>
        match field with
        | "secs_since_epoch" => return (← natural 64 value, r.2)
        | _ => return (r.1, ← natural 32 value))
      (0, 0) value
  let whole := seconds + nanoseconds / perSecond
  if Nat.pow 2 64 ≤ whole then
    throw (.other "overflow deserializing SystemTime epoch offset")
  atMost 2 value ()
  if Nat.pow 2 63 ≤ whole then
    throw (.other "overflow deserializing SystemTime")
  return ⟨(seconds * perSecond + nanoseconds : Nat)⟩

def encodeFault : String :=
  "SystemTime must be later than UNIX_EPOCH"

def encode (t : Timestamp) : Except String Json :=
  match t.nanoseconds with
  | .ofNat n =>
    .ok (.obj [("secs_since_epoch", .ofNat (n / perSecond)),
      ("nanos_since_epoch", .ofNat (n % perSecond))])
  | .negSucc _ => .error encodeFault

end Timestamp

namespace Location

def decode : Json → Except DecodeError Location :=
  wholeRecord ⟨"SymbolLocation", ["path", "line", "utf8_column", "is_system", "timestamp"], true⟩
    (fun field value l =>
      match field with
      | "path" => return { l with path := ← string value }
      | "line" => return { l with line := (← natural 32 value).toUInt32 }
      | "utf8_column" => return { l with column := (← natural 32 value).toUInt32 }
      | "is_system" => return { l with isSystem := ← boolean value }
      | _ => return { l with timestamp := ← Timestamp.decode value })
    ⟨"", 0, 0, false, ⟨0⟩⟩

def encode (l : Location) : Except String Json := do
  return .obj [("path", .str l.path), ("line", .ofNat l.line.toNat),
    ("utf8_column", .ofNat l.column.toNat), ("is_system", .bool l.isSystem),
    ("timestamp", ← l.timestamp.encode)]

end Location

namespace Occurrence

def decode : Json → Except DecodeError Occurrence :=
  wholeRecord ⟨"SymbolOccurrence", ["location", "roles", "symbol", "relations"], true⟩
    (fun field value o =>
      match field with
      | "location" => return { o with location := ← Location.decode value }
      | "roles" => return { o with roles := ← Roles.decode value }
      | "symbol" => return { o with symbol := ← Symbol.decode value }
      | _ => return { o with relations := ← sequence Relation.decode value })
    ⟨⟨"", 0, 0, false, ⟨0⟩⟩, .empty, ⟨"", "", .other⟩, []⟩

def encode (o : Occurrence) : Except String Json := do
  return .obj [("location", ← o.location.encode), ("roles", o.roles.encode),
    ("symbol", o.symbol.encode), ("relations", .arr (o.relations.map Relation.encode))]

end Occurrence

namespace PatternOptions

def decode : Json → Except DecodeError PatternOptions :=
  wholeRecord
    ⟨"PatternOptions", ["anchor_start", "anchor_end", "subsequence", "ignore_case"], true⟩
    (fun field value o =>
      match field with
      | "anchor_start" => return { o with anchorStart := ← boolean value }
      | "anchor_end" => return { o with anchorEnd := ← boolean value }
      | "subsequence" => return { o with subsequence := ← boolean value }
      | _ => return { o with ignoreCase := ← boolean value })
    ⟨false, false, false, false⟩

def encode (o : PatternOptions) : Json :=
  .obj [("anchor_start", .bool o.anchorStart), ("anchor_end", .bool o.anchorEnd),
    ("subsequence", .bool o.subsequence), ("ignore_case", .bool o.ignoreCase)]

end PatternOptions

end FreshIndex
