import FreshIndex.Store.History

/-!
This module contains all that a database may be made of, whichever version has made it: the tables
of the schema may be of another shape, and there may be other tables, indexes, views and triggers.
-/

namespace FreshIndex.Store

inductive RelationKind
  | table
  | view
  | virtualTable
  deriving Repr, DecidableEq

/-- What stands behind the name of a table, and the names of its columns. -/
structure Shape where
  kind : RelationKind
  columns : List String
  deriving Repr, DecidableEq

namespace Shape

/-- The shape in which the statements of the schema make a table. -/
def ofSchema (name : TableName) : Shape :=
  ⟨.table, name.columns.map Column.name⟩

def place? (s : Shape) (column : String) : Option Nat :=
  s.columns.findIdx? (sameName column)

end Shape

namespace Database.Object

def isRelation (o : Object) : Bool :=
  o.type == "table" || o.type == "view"

def isIndex (o : Object) : Bool :=
  o.type == "index"

end Database.Object

/--
A database with its whole schema. `foreign` has the tables that are not as the statements of the
schema make them: their columns are others, or they have triggers. `others` are the tables, indexes,
views and triggers whose names the schema does not use for the same purpose.
-/
structure Catalog extends Database where
  foreign : List (TableName × Shape)
  others : List Database.Object
  others_relation : ∀ o ∈ others, o.isRelation → TableName.ofName? o.name = none
  deriving Repr, DecidableEq

/--
What a change depends on besides the database: the moment of it, and what an entry makes of a table
of another shape.
-/
structure Circumstances where
  moment : String
  entered : Table → Except StoreError Table

/-- A change of a database. -/
inductive Change
  | useLog
  | run (s : Statement)
  | setVersion (version : Int)
  | recordStep (source target : Int) (status : StepStatus)
  deriving Repr, DecidableEq

namespace Catalog

def ofDatabase (db : Database) : Catalog where
  toDatabase := db
  foreign := []
  others := []
  others_relation := by simp

def withDatabase (c : Catalog) (db : Database) : Catalog :=
  { c with toDatabase := db }

def isForeign (c : Catalog) (name : TableName) : Bool :=
  (c.foreign.lookup name).isSome

/-- The shape of a table. One that is missing would be made in the shape of the schema. -/
def shape (c : Catalog) (name : TableName) : Shape :=
  if (c.table? name).isSome then (c.foreign.lookup name).getD (.ofSchema name)
  else .ofSchema name

/-- Whether there is an index of a name; it may be one of another table or of other columns. -/
def hasIndex (c : Catalog) (index : IndexName) : Bool :=
  c.indexes.contains index || c.others.any fun o => o.isIndex && sameName o.name index.name

/-- Whether a table, or a view, has the name of an index. -/
def hasRelationNamed (c : Catalog) (index : IndexName) : Bool :=
  c.others.any fun o => o.isRelation && sameName o.name index.name

def hasIndexNamed (c : Catalog) (name : TableName) : Bool :=
  c.others.any fun o => o.isIndex && sameName o.name name.name

/-! ### Statements of the schema -/

def addTable (c : Catalog) (name : TableName) : Catalog :=
  { c.withDatabase (c.setTable name (some .empty)) with
    foreign := c.foreign.filter (·.1 != name) }

def addIndex (c : Catalog) (index : IndexName) : Catalog :=
  { c with indexes := c.indexes ++ [index] }

def createTable (c : Catalog) (name : TableName) : Except StoreError Catalog := do
  if (c.table? name).isSome then
    return c
  else if c.hasIndexNamed name then
    throw (.nameOfIndex name.name)
  else
    c.lock
    return c.addTable name

def requireIndexable (c : Catalog) (name : TableName) : Except StoreError Unit :=
  match (c.shape name).kind with
  | .table => .ok ()
  | .view => .error .viewNotIndexed
  | .virtualTable => .error .virtualTableNotIndexed

def requireColumns (c : Catalog) (index : IndexName) : Except StoreError Unit :=
  match index.columns.find? fun column => ((c.shape index.table).place? column).isNone with
  | some column => .error (.noSuchColumn column)
  | none => .ok ()

/-- The columns are looked at only if there is no index of that name. -/
def createIndex (c : Catalog) (index : IndexName) : Except StoreError Catalog := do
  discard (c.requireBehind index.table)
  c.requireIndexable index.table
  if c.hasRelationNamed index then
    throw (.nameOfTable index.name)
  else if c.hasIndex index then
    return c
  else
    c.requireColumns index
    c.lock
    return c.addIndex index

def run (c : Catalog) : Statement → Except StoreError Catalog
  | .createTable name => c.createTable name
  | .createIndex index => c.createIndex index

/-! ### The version and the history -/

def version (c : Catalog) : Int :=
  match c.indexMeta, (c.shape .indexMeta).place? "key", (c.shape .indexMeta).place? "value" with
  | some t, some key, some value => t.version key value
  | _, _, _ => 0

/--
Puts an entry into a table. What that does to a table in the shape of the schema is given; what it
does to another depends on the circumstances.
-/
def enter (c : Catalog) (given : Circumstances) (name : TableName)
    (entry : Database → Except StoreError Database) : Except StoreError Catalog := do
  if c.isForeign name then
    let t ← c.require name
    c.lock
    return c.withDatabase (c.setTable name (some (← given.entered t)))
  else
    return c.withDatabase (← entry c.toDatabase)

def perform (c : Catalog) (given : Circumstances) : Change → Except StoreError Catalog
  | .useLog => return c.withDatabase (← c.useWriteAheadLog)
  | .run s => c.run s
  | .setVersion version => c.enter given .indexMeta (·.setVersion version)
  | .recordStep source target status =>
    c.enter given .migrationHistory (·.recordStep given.moment source target status)

end Catalog

/-- A statement on a database that is made as the schema makes it, and of nothing else. -/
def Database.run (db : Database) (s : Statement) : Except StoreError Database :=
  ((Catalog.ofDatabase db).run s).map (·.toDatabase)

end FreshIndex.Store
