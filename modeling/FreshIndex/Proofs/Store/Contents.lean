import Mathlib.Data.List.Nodup
import FreshIndex.Proofs.View.Enumeration
import FreshIndex.Store.StoredIndex

/-!
This module contains what a sound database says: its rows as records whose values are of the types
that the columns declare, and what the answers to queries have to be in terms of these records.
-/

namespace FreshIndex

variable {σ τ α : Type}

/-- A visitor is shown all occurrences, or all up to the one at which it stops. -/
inductive Visits (visitor : Occurrence → τ → Flow × τ) (os : List Occurrence) (t : τ) :
    Flow → τ → Prop
  | ended {t' : τ} (hshown : Shown visitor t os t') : Visits visitor os t .proceed t'
  | stopped {before after : List Occurrence} {o : Occurrence} {t' t'' : τ}
    (hos : os = before ++ o :: after) (hshown : Shown visitor t before t')
    (hstop : visitor o t' = (.stop, t'')) : Visits visitor os t .stop t''

/-- The action has the result `a`, and nothing happens in it but one question to the index. -/
def Answers (act : StateM (World σ) α) (w : World σ) (call : Call) (a : α) : Prop :=
  act w = (a, { w with trace := .call call :: w.trace })

namespace Enumeration

def call : Enumeration → Call
  | occurrences usr roles => .occurrences usr roles
  | containing pattern _ => .containing pattern
  | named name => .named name

def query : Enumeration → StoredQuery
  | occurrences _ _ => .occurrences
  | containing _ _ => .containing
  | named _ => .named

/-- The enumeration as the index has it, with nothing left out. -/
def eachOf (index : RawIndex σ) (visitor : Occurrence → τ → Flow × τ) (t : τ) :
    Enumeration → StateM (World σ) (Flow × τ)
  | occurrences usr roles => index.eachOccurrence usr roles visitor t
  | containing pattern options => index.eachContaining pattern options visitor t
  | named name => index.eachNamed name visitor t

end Enumeration

def Listing.call : Listing → Call
  | occurrencesOf usr roles => .occurrences usr roles
  | relatedTo usr roles => .related usr roles
  | unitTests => .unitTests
  | unitTestsFor paths => .unitTestsOf paths

namespace Store

structure SymbolRecord where
  place : Int64
  usr : String
  name : String
  kind : String

def SymbolRecord.row (s : SymbolRecord) : Row :=
  ⟨s.place, [.text s.usr, .text s.name, .text s.kind]⟩

def SymbolRecord.symbol (s : SymbolRecord) : Symbol :=
  ⟨s.usr, s.name, .ofName s.kind⟩

structure OccurrenceRecord where
  id : Int64
  usr : String
  roles : Roles
  path : String
  line : UInt32
  column : UInt32
  isSystem : Int64
  timestamp : Int64

def OccurrenceRecord.row (o : OccurrenceRecord) : Row :=
  ⟨o.id, [.integer o.id, .text o.usr, .integer (rolesToStored o.roles), .text o.path,
    .integer (.ofNat o.line.toNat), .integer (.ofNat o.column.toNat), .integer o.isSystem,
    .integer o.timestamp]⟩

def OccurrenceRecord.location (o : OccurrenceRecord) : Location :=
  ⟨o.path, o.line, o.column, o.isSystem ≠ 0, ⟨o.timestamp.toInt⟩⟩

structure RelationRecord where
  id : Int64
  occurrence : Int64
  roles : Roles
  usr : String

def RelationRecord.row (r : RelationRecord) : Row :=
  ⟨r.id, [.integer r.id, .integer r.occurrence, .integer (rolesToStored r.roles), .text r.usr]⟩

structure UnitTestRecord where
  place : Int64
  occurrence : Int64
  mainFile : String

def UnitTestRecord.row (u : UnitTestRecord) : Row :=
  ⟨u.place, [.integer u.occurrence, .text u.mainFile]⟩

/-- The records of the tables that queries for symbols and occurrences read. -/
structure Contents where
  symbols : List SymbolRecord
  occurrences : List OccurrenceRecord
  relations : List RelationRecord
  unitTests : List UnitTestRecord

/-- The tables are there, and their rows are those of the records. -/
structure Database.Holds (db : Database) (c : Contents) : Prop where
  symbols : db.symbols.map Table.rows = some (c.symbols.map SymbolRecord.row)
  occurrences : db.occurrences.map Table.rows = some (c.occurrences.map OccurrenceRecord.row)
  relations : db.relations.map Table.rows = some (c.relations.map RelationRecord.row)
  unitTests : db.unitTests.map Table.rows = some (c.unitTests.map UnitTestRecord.row)

namespace Contents

/-- A database that has the records and nothing else. -/
def database (c : Contents) : Database where
  indexMeta := none
  symbols := some ⟨c.symbols.map SymbolRecord.row, 0⟩
  occurrences := some ⟨c.occurrences.map OccurrenceRecord.row, 0⟩
  relations := some ⟨c.relations.map RelationRecord.row, 0⟩
  units := none
  unitFiles := none
  unitTests := some ⟨c.unitTests.map UnitTestRecord.row, 0⟩
  migrationHistory := none
  indexes := []
  hasWriteAheadLog := false
  isLocked := false

theorem holds_database (c : Contents) : c.database.Holds c :=
  ⟨rfl, rfl, rfl, rfl⟩

/-- The constraints of the schema: a symbol has one row, and there is a row for each symbol. -/
structure IsSound (c : Contents) : Prop where
  symbols : (c.symbols.map SymbolRecord.usr).Nodup
  occurrences : c.occurrences.Pairwise fun o p => o.id < p.id
  relations : c.relations.Pairwise fun r s => r.id < s.id
  occurrenceSymbols : ∀ o ∈ c.occurrences, ∃ s ∈ c.symbols, s.usr = o.usr
  relationSymbols : ∀ r ∈ c.relations, ∃ s ∈ c.symbols, s.usr = r.usr

def HasSymbol (c : Contents) (usr : String) (symbol : Symbol) : Prop :=
  ∃ s ∈ c.symbols, s.usr = usr ∧ s.symbol = symbol

structure IsRelation (c : Contents) (r : RelationRecord) (relation : Relation) : Prop where
  symbol : c.HasSymbol r.usr relation.symbol
  roles : relation.roles = r.roles

def relationsOf (c : Contents) (o : OccurrenceRecord) : List RelationRecord :=
  c.relations.filter (·.occurrence == o.id)

/-- An occurrence is what a record says, with the relations in the order of their records. -/
structure IsOccurrence (c : Contents) (o : OccurrenceRecord) (occurrence : Occurrence) : Prop where
  location : occurrence.location = o.location
  roles : occurrence.roles = o.roles
  symbol : c.HasSymbol o.usr occurrence.symbol
  relations : List.Forall₂ c.IsRelation (c.relationsOf o) occurrence.relations

def isNamed (c : Contents) (accept : String → Bool) (o : OccurrenceRecord) : Bool :=
  c.symbols.any fun s => s.usr == o.usr && accept s.name

/-- Whether an enumeration has to visit the occurrence of a record. -/
def visits (c : Contents) (o : OccurrenceRecord) : Enumeration → Bool
  | .occurrences usr roles => o.usr == usr && o.roles.intersects roles
  | .containing pattern options =>
    o.roles.intersects Role.canonical && c.isNamed (Pattern.accepts options pattern) o
  | .named name => o.roles.intersects Role.canonical && c.isNamed (· == name) o

/-- Whether a list has to contain the occurrence of a record. -/
def lists (c : Contents) (o : OccurrenceRecord) : Listing → Bool
  | .occurrencesOf usr roles => o.usr == usr && o.roles.intersects roles
  | .relatedTo usr roles =>
    c.relations.any fun r =>
      r.occurrence == o.id && (r.usr == usr && r.roles.intersects roles)
  | .unitTests => c.unitTests.any (·.occurrence == o.id)
  | .unitTestsFor paths =>
    c.unitTests.any fun u => u.occurrence == o.id && paths.contains u.mainFile

/-- Occurrences are what records say, and the records and their relations ascend by their ids. -/
structure Yields (c : Contents) (records : List OccurrenceRecord) (os : List Occurrence) :
    Prop where
  ascending : records.Pairwise fun o p => o.id < p.id
  ascendingRelations : ∀ o ∈ records, (c.relationsOf o).Pairwise fun r s => r.id < s.id
  each : List.Forall₂ c.IsOccurrence records os

/-- The symbols that occur at a path, each once, in the order in which they first occur there. -/
structure OccurAt (c : Contents) (path : String) (records : List SymbolRecord) : Prop where
  complete : ∀ s, s ∈ records ↔
    s ∈ c.symbols ∧ ∃ o ∈ c.occurrences, o.path = path ∧ o.usr = s.usr
  nodup : (records.map SymbolRecord.usr).Nodup
  ordered : records.Pairwise fun s s' =>
    ∃ o ∈ c.occurrences, o.path = path ∧ o.usr = s.usr ∧
      ∀ o' ∈ c.occurrences, o'.path = path → o'.usr = s'.usr → o.id < o'.id

/-- A type and a test in it. The highest bit is among the roles of the test and of its relation. -/
def sample : Contents where
  symbols := [⟨1, "s:A", "Model", "struct"⟩, ⟨2, "s:f", "run", "function"⟩]
  occurrences := [
    ⟨1, "s:A", Role.definition, "/a", 1, 1, 0, 100⟩,
    ⟨2, "s:f", ⟨0x8000000000000001⟩, "/a", 2, 5, 0, 100⟩]
  relations := [⟨1, 2, ⟨0x8000000000000000⟩, "s:A"⟩]
  unitTests := [⟨1, 2, "/tests"⟩]

theorem isSound_sample : sample.IsSound := by
  constructor <;> decide

end Contents

end Store

end FreshIndex
