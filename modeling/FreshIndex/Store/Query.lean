import FreshIndex.FirstByKey
import FreshIndex.Pattern
import FreshIndex.Store.Database
import FreshIndex.Symbol.Occurrence

/-!
This module contains the queries to a database. The rows of occurrences are joined with those of
their symbols and read in ascending order of their ids. A row that cannot be read ends a query: what
was read before it has been seen, and the failure is reported.
-/

namespace FreshIndex.Store

/-! ### Rows as values of the model -/

def rolesToStored (r : Roles) : Int64 :=
  r.bits.toInt64

def rolesOfStored (n : Int64) : Roles :=
  ⟨n.toUInt64⟩

def rolesMeet (c : Cell) (r : Roles) : Bool :=
  c.bits &&& rolesToStored r != 0

def occurrenceAnswer : List String :=
  ["id", "usr", "name", "kind", "roles", "path", "line", "utf8_column", "is_system", "timestamp_ns"]

def relationAnswer : List String :=
  ["roles", "usr", "name", "kind"]

def symbolAnswer : List String :=
  ["usr", "name", "kind"]

def columnIn (answer : List String) (name : String) : AnswerColumn :=
  ⟨answer.idxOf name, name⟩

structure OccurrenceRow where
  id : Int64
  occurrence : Occurrence

/--
Reads the row of an occurrence and the row of its symbol. The kind is read first, the others as they
follow each other here.
-/
def OccurrenceRow.read (o s : Row) : Except StoreError OccurrenceRow := do
  let field := columnIn occurrenceAnswer
  let kindName ← (s.cell SymbolColumn.kind).readText (field "kind")
  let id ← (o.cell OccurrenceColumn.id).readInteger (field "id")
  let usr ← (o.cell OccurrenceColumn.usr).readText (field "usr")
  let name ← (s.cell SymbolColumn.name).readText (field "name")
  let roles ← (o.cell OccurrenceColumn.roles).readInteger (field "roles")
  let path ← (o.cell OccurrenceColumn.path).readText (field "path")
  let line ← (o.cell OccurrenceColumn.line).readWord (field "line")
  let column ← (o.cell OccurrenceColumn.column).readWord (field "utf8_column")
  let isSystem ← (o.cell OccurrenceColumn.isSystem).readFlag (field "is_system")
  let timestamp ← (o.cell OccurrenceColumn.timestamp).readInteger (field "timestamp_ns")
  return {
    id
    occurrence := {
      location := { path, line, column, isSystem, timestamp := .ofStored timestamp }
      roles := rolesOfStored roles
      symbol := { usr, name, kind := .ofName kindName }
      relations := [] } }

def readRelation (r s : Row) : Except StoreError Relation := do
  let field := columnIn relationAnswer
  let kindName ← (s.cell SymbolColumn.kind).readText (field "kind")
  let roles ← (r.cell RelationColumn.roles).readInteger (field "roles")
  let usr ← (s.cell SymbolColumn.usr).readText (field "usr")
  let name ← (s.cell SymbolColumn.name).readText (field "name")
  return ⟨{ usr, name, kind := .ofName kindName }, rolesOfStored roles⟩

def readSymbol (s : Row) : Except StoreError Symbol := do
  let field := columnIn symbolAnswer
  let kindName ← (s.cell SymbolColumn.kind).readText (field "kind")
  let usr ← (s.cell SymbolColumn.usr).readText (field "usr")
  let name ← (s.cell SymbolColumn.name).readText (field "name")
  return { usr, name, kind := .ofName kindName }

/-- Rows, each with every row of a symbol whose key is in the column at `place`. -/
def joined (rows symbols : List Row) (place : Nat) : List (Row × Row) :=
  rows.flatMap fun r =>
    (symbols.filter fun s => (s.cell SymbolColumn.usr).same (r.cell place)).map fun s => (r, s)

/-! ### Enumerations -/

/-- What was read, and what it ended with if not with the last row. -/
structure Outcome where
  visited : List Occurrence
  failure : Option StoreError

/--
Reads joined rows one after the other. The relations of a row are loaded if the name of its symbol
is accepted.
-/
def visit (load : Int64 → Except StoreError (List Relation)) (accept : String → Bool) :
    List (Row × Row) → Outcome
  | [] => ⟨[], none⟩
  | (o, s) :: rest =>
    match OccurrenceRow.read o s with
    | .error e => ⟨[], some e⟩
    | .ok row =>
      if accept row.occurrence.symbol.name then
        match load row.id with
        | .error e => ⟨[], some e⟩
        | .ok relations =>
          let more := visit load accept rest
          ⟨{ row.occurrence with relations } :: more.visited, more.failure⟩
      else
        visit load accept rest

namespace Database

def relationsOf (db : Database) (id : Int64) : Except StoreError (List Relation) := do
  let relations ← db.require .relations
  let symbols ← db.require .symbols
  let rows := relations.rows.filter fun r => (r.cell RelationColumn.occurrence).same (.integer id)
  (joined rows symbols.rows RelationColumn.usr).mapM fun (r, s) => readRelation r s

def occurrenceRows (db : Database) : Except StoreError (List (Row × Row)) := do
  let occurrences ← db.require .occurrences
  let symbols ← db.require .symbols
  return joined occurrences.rows symbols.rows OccurrenceColumn.usr

def occurrencesWhere (db : Database) (condition : Row → Row → Bool) (accept : String → Bool) :
    Outcome :=
  match db.occurrenceRows with
  | .error e => ⟨[], some e⟩
  | .ok rows => visit db.relationsOf accept (rows.filter fun (o, s) => condition o s)

def idIsAmong (ids : List Cell) (o : Row) : Bool :=
  ids.any (o.cell OccurrenceColumn.id).same

def occurrencesWithIds (db : Database) (ids : Except StoreError (List Cell)) : Outcome :=
  match db.occurrenceRows, ids with
  | .error e, _ => ⟨[], some e⟩
  | _, .error e => ⟨[], some e⟩
  | _, .ok ids => db.occurrencesWhere (fun o _ => idIsAmong ids o) fun _ => true

def isInRoles (roles : Roles) (o : Row) : Bool :=
  rolesMeet (o.cell OccurrenceColumn.roles) roles

def occurrencesOf (db : Database) (usr : String) (roles : Roles) : Outcome :=
  db.occurrencesWhere (fun o _ => o.isText OccurrenceColumn.usr usr && isInRoles roles o)
    fun _ => true

def occurrencesContaining (db : Database) (pattern : String) (options : PatternOptions) :
    Outcome :=
  db.occurrencesWhere (fun o _ => isInRoles Role.canonical o)
    fun name => Pattern.accepts options pattern name

def occurrencesNamed (db : Database) (name : String) : Outcome :=
  db.occurrencesWhere
    (fun o s => s.isText SymbolColumn.name name && isInRoles Role.canonical o) fun _ => true

def values (db : Database) (name : TableName) (place : Nat) (condition : Row → Bool) :
    Except StoreError (List Cell) := do
  let t ← db.require name
  return (t.rows.filter condition).map (·.cell place)

def occurrencesRelatedTo (db : Database) (usr : String) (roles : Roles) : Outcome :=
  db.occurrencesWithIds <|
    db.values .relations RelationColumn.occurrence fun r =>
      r.isText RelationColumn.usr usr && rolesMeet (r.cell RelationColumn.roles) roles

def unitTestOccurrences (db : Database) : Outcome :=
  db.occurrencesWithIds (db.values .unitTests UnitTestColumn.occurrence fun _ => true)

def unitTestOccurrencesOf (db : Database) (paths : List String) : Outcome :=
  if paths.isEmpty then ⟨[], none⟩
  else if maxVariables < paths.length then ⟨[], some .tooManyVariables⟩
  else
    db.occurrencesWithIds <|
      db.values .unitTests UnitTestColumn.occurrence fun r =>
        paths.any (r.isText UnitTestColumn.mainFile ·)

/-! ### Queries for files -/

/-- The symbols that occur at a path, each once, in the order of their first rows. -/
def symbolsAt (db : Database) (path : String) : Except StoreError (List Symbol) := do
  let rows ← db.occurrenceRows
  let there := rows.filter fun (o, _) => o.isText OccurrenceColumn.path path
  (firstByKey (Row.cell · SymbolColumn.usr) (there.map (·.2))).mapM readSymbol

def isUnitOf (path : String) (u : Row) : Bool :=
  u.isText UnitColumn.mainFile path

/-- The main files that include a path, itself first, the others in the order of their texts. -/
def mainFilesOf (db : Database) (path : String) (crossLanguage : Bool) :
    Except StoreError (List String) := do
  let units ← db.require .units
  let itself := if units.rows.any (isUnitOf path) then [path] else []
  let files ← db.require .unitFiles
  let including := files.rows.filter fun f =>
    f.isText UnitFileColumn.path path &&
      (crossLanguage || (f.cell UnitFileColumn.crossLanguage).same (.integer 0))
  let found := including.flatMap fun f =>
    (units.rows.filter fun u => (u.cell UnitColumn.name).same (f.cell UnitFileColumn.unit)).map
      (·.cell UnitColumn.mainFile)
  let inOrder := found.mergeSort fun a b => (a.order b).isLE
  let mainFiles ← inOrder.mapM (·.readText (columnIn ["main_file"] "main_file"))
  return firstByKey id (itself ++ mainFiles)

/-- The later of the moments in two cells, the first of two equal ones. -/
def laterCell (latest : Option Cell) (c : Cell) : Option Cell :=
  match latest with
  | none => some c
  | some l => if (l.order c).isLT then some c else some l

def latestUnitDate (db : Database) (path : String) : Except StoreError (Option Timestamp) := do
  let units ← db.require .units
  let dates := (units.rows.filter (isUnitOf path)).map (·.cell UnitColumn.timestamp)
  match dates.foldl laterCell none with
  | none => return none
  | some c =>
    return some (.ofStored (← c.readInteger (columnIn ["MAX(timestamp_ns)"] "MAX(timestamp_ns)")))

/-- Waits for a writer to finish, and counts the units. -/
def synchronize (db : Database) : Except StoreError Nat := do
  db.lock
  let units ← db.require .units
  return units.rows.length

end Database

end FreshIndex.Store
