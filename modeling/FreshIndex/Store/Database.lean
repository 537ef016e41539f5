import FreshIndex.Store.Cell
import FreshIndex.Store.Schema

/-!
This module contains the database: its tables with their rows in ascending order, and the statements
that change it. A statement that fails changes nothing. What a statement names is looked up first,
then the lock is taken, and then the constraints are checked.
-/

namespace FreshIndex.Store

/--
A row of a table. The id of a row in a table without ids is its place in the order of insertion.
-/
structure Row where
  id : Int64
  cells : List Cell
  deriving Repr, DecidableEq

def Row.cell (r : Row) (place : Nat) : Cell :=
  r.cells.getD place .null

/-- The value in the first column, to which the rows of other tables refer. -/
def Row.key (r : Row) : Cell :=
  r.cell 0

def Row.isText (r : Row) (place : Nat) (s : String) : Bool :=
  (r.cell place).same (.text s)

/-- A table: its rows in ascending order, and the largest id ever used in it. -/
structure Table where
  rows : List Row
  lastId : Int64
  deriving Repr, DecidableEq

def Table.empty : Table := ⟨[], 0⟩

/--
A database whose tables are made as the schema makes them. It is locked while another connection is
writing.
-/
structure Database where
  indexMeta : Option Table
  symbols : Option Table
  occurrences : Option Table
  relations : Option Table
  units : Option Table
  unitFiles : Option Table
  unitTests : Option Table
  migrationHistory : Option Table
  indexes : List IndexName
  hasWriteAheadLog : Bool
  isLocked : Bool
  deriving Repr, DecidableEq

namespace Database

def empty : Database :=
  ⟨none, none, none, none, none, none, none, none, [], false, false⟩

def table? (db : Database) : TableName → Option Table
  | .indexMeta => db.indexMeta
  | .symbols => db.symbols
  | .occurrences => db.occurrences
  | .relations => db.relations
  | .units => db.units
  | .unitFiles => db.unitFiles
  | .unitTests => db.unitTests
  | .migrationHistory => db.migrationHistory

def setTable (db : Database) (name : TableName) (t : Option Table) : Database :=
  match name with
  | .indexMeta => { db with indexMeta := t }
  | .symbols => { db with symbols := t }
  | .occurrences => { db with occurrences := t }
  | .relations => { db with relations := t }
  | .units => { db with units := t }
  | .unitFiles => { db with unitFiles := t }
  | .unitTests => { db with unitTests := t }
  | .migrationHistory => { db with migrationHistory := t }

theorem table?_setTable (db : Database) (name other : TableName) (t : Option Table) :
    (db.setTable name t).table? other = if other = name then t else db.table? other := by
  cases name <;> cases other <;> rfl

@[simp]
theorem indexes_setTable (db : Database) (name : TableName) (t : Option Table) :
    (db.setTable name t).indexes = db.indexes := by
  cases name <;> rfl

def require (db : Database) (name : TableName) : Except StoreError Table :=
  match db.table? name with
  | some t => .ok t
  | none => .error (.noSuchTable name.name)

def find (db : Database) (written : String) : Except StoreError TableName :=
  match (TableName.ofName? written).filter fun name => (db.table? name).isSome with
  | some name => .ok name
  | none => .error (.noSuchTable written)

/-- The table of a name, on which a constraint or an index of another statement depends. -/
def requireBehind (db : Database) (name : TableName) : Except StoreError Table :=
  match db.table? name with
  | some t => .ok t
  | none => .error (.noSuchTable ("main." ++ name.name))

def requireParents (db : Database) (name : TableName) : Except StoreError Unit :=
  name.references.forM fun (_, parent) => do
    discard (db.requireBehind parent)

def lock (db : Database) : Except StoreError Unit :=
  if db.isLocked then .error .locked else .ok ()

/-! ### Rows -/

def holds (t : Option Table) (value : Cell) : Bool :=
  match t with
  | some t => t.rows.any fun r => r.key.same value
  | none => false

def insertRow (r : Row) : (rows : List Row) → List Row
  | [] => [r]
  | s :: rest => if r.id < s.id then r :: s :: rest else s :: insertRow r rest

/-- The next id of a table: one more than the largest, of those that are there or were. -/
def nextId (t : Table) : Except StoreError Int64 :=
  let largest := (t.rows.getLast?.map (·.id.toInt)).getD 0
  let next := max (largest + 1) (t.lastId.toInt + 1)
  if largest = Int64.maxValue.toInt ∨ t.lastId = Int64.maxValue then .error .full
  else .ok (.ofInt next)

def nextPlace (t : Table) : Int64 :=
  .ofInt ((t.rows.getLast?.map (·.id.toInt)).getD 0 + 1)

/-- The id that a row asks for with the value in its first column. -/
def chosenId (t : Table) (value : Cell) : Except StoreError Int64 :=
  match value.toNumber with
  | .null => nextId t
  | .integer n => .ok n
  | _ => .error .notAnId

/-- The values of a row as they are kept in the columns of a table. -/
def converted (name : TableName) (cells : List Cell) : List Cell :=
  name.columns.zipIdx.map fun (c, i) =>
    let value := cells.getD i .null
    match c.affinity with
    | .number => value.toNumber
    | .text => value.toText

def qualified (name : TableName) (c : Column) : String :=
  name.name ++ "." ++ c.name

def checkNulls (name : TableName) (cells : List Cell) : Except StoreError Unit :=
  match (name.columns.zip cells).find? fun (c, value) => c.notNull && value == .null with
  | some (c, _) => .error (.isNull (qualified name c))
  | none => .ok ()

def sameKey (name : TableName) (a b : List Cell) : Bool :=
  (List.range name.keyLength).all fun i => (a.getD i .null).same (b.getD i .null)

def checkKey (name : TableName) (t : Table) (cells : List Cell) : Except StoreError Unit :=
  if t.rows.any fun r => sameKey name r.cells cells then
    .error (.notUnique ((name.columns.take name.keyLength).map (qualified name)))
  else
    .ok ()

def isSettled (db : Database) (parent : TableName) (value : Cell) : Bool :=
  value == .null || holds (db.table? parent) value

def checkReferences (db : Database) (name : TableName) (cells : List Cell) :
    Except StoreError Unit :=
  if name.references.all fun (i, parent) => db.isSettled parent (cells.getD i .null) then .ok ()
  else .error .brokenReference

def checkCount (name : TableName) (cells : List Cell) : Except StoreError Unit :=
  if cells.length = name.columns.length then .ok ()
  else .error (.wrongCount name.name name.columns.length cells.length)

def insert (db : Database) (name : TableName) (cells : List Cell) :
    Except StoreError (Database × Int64) := do
  let t ← db.require name
  checkCount name cells
  db.requireParents name
  db.lock
  let id ←
    if name.hasId then chosenId t (cells.getD 0 .null)
    else pure (nextPlace t)
  let cells :=
    converted name (if name.hasId then .integer id :: cells.drop 1 else cells)
  checkNulls name cells
  checkKey name t cells
  checkReferences db name cells
  let lastId := if name.hasId ∧ t.lastId < id then id else t.lastId
  return (db.setTable name (some ⟨insertRow ⟨id, cells⟩ t.rows, lastId⟩), id)

/-- The place of a column; a row's id is also a column. -/
def column? (name : TableName) (column : String) : Option (Option Nat) :=
  match name.columns.findIdx? fun c => sameName c.name column with
  | some i => some (some i)
  | none => if ["rowid", "oid", "_rowid_"].any (sameName · column) then some none else none

/-- Whether a row has a value in a column; the value is converted as the column asks. -/
def matchesValue (name : TableName) (place : Option Nat) (value : Cell) (r : Row) : Bool :=
  match place with
  | none => (Cell.integer r.id).same value.toNumber
  | some i =>
    match name.columns[i]?.map Column.affinity with
    | some .text => (r.cell i).same value.toText
    | _ => (r.cell i).same value.toNumber

def referrers (db : Database) (name : TableName) (r : Row) : Nat :=
  let ofChild (child : TableName) : Nat :=
    (child.references.filter (·.2 == name)).foldl
      (fun n (i, _) =>
        n + ((db.table? child).map fun t =>
          t.rows.countP fun c => r.key.same (c.cell i)).getD 0)
      0
  TableName.all.foldr (fun child n => ofChild child + n) 0

/--
The number of broken references after the removal of a row, if it was `broken` before. A row that
referred to nothing itself takes one of them away.
-/
def brokenAfter (db : Database) (name : TableName) (broken : Nat) (r : Row) : Nat :=
  let dangling := name.references.countP fun (i, parent) => !db.isSettled parent (r.cell i)
  broken - dangling + db.referrers name r

def delete (db : Database) (name : TableName) (column : String) (value : Cell) :
    Except StoreError (Database × Nat) := do
  let t ← db.require name
  match column? name column with
  | none => throw (.noSuchColumn column)
  | some place =>
    db.requireParents name
    db.lock
    let (removed, kept) := t.rows.partition (matchesValue name place value)
    if removed.foldl (db.brokenAfter name) 0 = 0 then
      return (db.setTable name (some { t with rows := kept }), removed.length)
    else
      throw .brokenReference

/-! ### The file and its objects -/

/-- Turns the log on that lets readers go on while there is a writer. -/
def useWriteAheadLog (db : Database) : Except StoreError Database := do
  if db.hasWriteAheadLog then
    return db
  else
    db.lock
    return { db with hasWriteAheadLog := true }

/-- Removes a table with its indexes. References to it are not looked at. -/
def drop (db : Database) (name : TableName) : Except StoreError Database := do
  discard (db.require name)
  db.lock
  let db := db.setTable name none
  return { db with indexes := db.indexes.filter (·.table != name) }

structure Object where
  type : String
  name : String
  table : String
  deriving Repr, DecidableEq

def objects (db : Database) : List Object :=
  let tables := (TableName.all.filter fun n => (db.table? n).isSome).map fun n =>
    (⟨"table", n.name, n.name⟩ : Object)
  let indexes := db.indexes.map fun i => (⟨"index", i.name, i.table.name⟩ : Object)
  (tables ++ indexes).mergeSort fun a b => (compare a.name b.name).isLE

end Database

end FreshIndex.Store
