import FreshIndex.Number.Numeral
import FreshIndex.Store.Database

/-!
This module contains what a database keeps about itself: its version, the history of its migrations
and other values under keys.
-/

namespace FreshIndex.Store

inductive StepStatus
  | success
  | failed (message : String)
  deriving Repr, DecidableEq

def versionKey : String := "schema_version"

/--
The version that is kept in a table with its keys and values at the given places; zero if there is
none that can be read.
-/
def Table.version (t : Table) (key value : Nat) : Int :=
  match (t.rows.find? (·.isText key versionKey)).map (Row.cell · value) with
  | some (.text s) => (Numeral.readInt (Nat.pow 2 31 - 1) s.toList).toOption.getD 0
  | _ => 0

namespace Database

def storedVersion (db : Database) : Int :=
  match db.indexMeta with
  | none => 0
  | some t => t.version MetaColumn.key MetaColumn.value

/-- Keeps a version, in place of the one that was kept, in the same row. -/
def setVersion (db : Database) (version : Int) : Except StoreError Database := do
  let t ← db.require .indexMeta
  db.lock
  let isVersion (r : Row) : Bool := r.isText MetaColumn.key versionKey
  let value := Cell.text (toString version)
  if t.rows.any isVersion then
    let rows := t.rows.map fun r =>
      if isVersion r then { r with cells := [.text versionKey, value] } else r
    return db.setTable .indexMeta (some { t with rows })
  else
    return (← db.insert .indexMeta [.text versionKey, value]).1

/-- Puts an entry into the history. The moment of it is that of the change. -/
def recordStep (db : Database) (moment : String) (source target : Int) (status : StepStatus) :
    Except StoreError Database := do
  let (word, message) : String × Cell :=
    match status with
    | .success => ("success", .null)
    | .failed message => ("failed", .text message)
  return (← db.insert .migrationHistory
    [.null, .integer (.ofInt source), .integer (.ofInt target), .text word, message,
     .text moment]).1

/-- The entries of the history without their moments, in the order in which they were made. -/
def history (db : Database) : Except StoreError (List (List Cell)) := do
  let t ← db.require .migrationHistory
  return t.rows.map (·.cells.take HistoryColumn.createdAt)

/--
Keeps a value under a key, in place of the one that was kept. The row is a new one, with an id that
is greater than that of the row whose place it takes.
-/
def setMeta (db : Database) (key : String) (value : Cell) : Except StoreError Database := do
  let t ← db.require .indexMeta
  db.lock
  let others := t.rows.filter fun r => !r.isText MetaColumn.key key
  let row : Row := ⟨nextPlace t, converted .indexMeta [.text key, value]⟩
  return db.setTable .indexMeta (some { t with rows := insertRow row others })

def metaEntries (db : Database) : Except StoreError (List (Cell × Cell)) := do
  let t ← db.require .indexMeta
  let entries := t.rows.map fun r => (r.cell MetaColumn.key, r.cell MetaColumn.value)
  return entries.mergeSort fun a b => (a.1.order b.1).isLE

end Database

end FreshIndex.Store
