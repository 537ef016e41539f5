import FreshIndex.Store.Connection

/-!
This module contains the making of the tables of an index, and the migration of a database that an
older version has made. A step of the migration takes the database from one version to the next. It
is taken behind a savepoint, and rolled back if it fails.
-/

namespace FreshIndex.Store

inductive SetupError
  | newerSchema (found : Int)
  | failed (cause : StoreError)
  deriving Repr, DecidableEq

def SetupError.message : SetupError → String
  | newerSchema found =>
    "Index error: index schema version " ++ toString found ++
      " is newer than supported version " ++ toString schemaVersion
  | failed cause => "SQLite error: " ++ cause.message

variable {σ : Type}

def stepName : String := "indexguard_migrate_step"

/-- What a version adds to the one before it: the second adds two indexes. -/
def addVersion (m : Machine σ) (version : Int) : Transaction σ Unit := do
  if version = 2 then
    execute m (.change (.run (.createIndex .symbolsNameNocase)))
    execute m (.change (.run (.createIndex .unitsMainFileTimestamp)))

/-- A step, after its savepoint is set. -/
def migrateStep (m : Machine σ) (source : Int) : Transaction σ Unit := do
  addVersion m (source + 1)
  execute m (.change (.setVersion (source + 1)))
  execute m (.change (.recordStep source (source + 1) .success))
  execute m (.release stepName)

/-- Takes a step back that has failed. Whatever fails in doing so is not looked at. -/
def takeBack (m : Machine σ) (source : Int) (failure : SetupError) :
    StateM (Connection σ) Unit := do
  discard (execute m (.rollBackTo stepName)).run
  discard (execute m (.release stepName)).run
  discard (execute m
    (.change (.recordStep source (source + 1) (.failed failure.message)))).run

def migrateSteps (m : Machine σ) : (steps : Nat) → StateM (Connection σ) (Option SetupError)
  | 0 => return none
  | steps + 1 => do
    let source : Int := schemaVersion - (steps + 1 : Nat)
    match ← (execute m (.setSavepoint stepName)).run with
    | .error cause => return some (.failed cause)
    | .ok () =>
      match ← (migrateStep m source).run with
      | .ok () => migrateSteps m steps
      | .error cause =>
        takeBack m source (.failed cause)
        return some (.failed cause)

/-- Takes the database to the current version. One of a newer version is refused. -/
def migrate (m : Machine σ) : StateM (Connection σ) (Option SetupError) := do
  let version := (← get).catalog.version
  if schemaVersion < version then
    return some (.newerSchema version)
  else
    migrateSteps m (schemaVersion - version).toNat

def replay (m : Machine σ) (ss : List Statement) : Transaction σ Unit :=
  ss.forM fun s => execute m (.change (.run s))

def prepare (m : Machine σ) : Transaction σ Unit := do
  execute m (.change .useLog)
  replay m statements

def setUp (m : Machine σ) : StateM (Connection σ) (Option SetupError) := do
  match ← (prepare m).run with
  | .error cause => return some (.failed cause)
  | .ok () => migrate m

/-- A change, which may end early: the database that is left, and why it ended. -/
structure Setup where
  database : Database
  failure : Option SetupError

namespace Database

/-- The moment of all entries of the history: the clock of a database stands still. -/
def clock : String := "2025-10-09 08:53:20"

/-- What is done over a new connection to a database, on a machine that refuses nothing. -/
def overConnection (db : Database)
    (act : Machine Unit → StateM (Connection Unit) (Option SetupError)) : Setup :=
  let (failure, c) := act (.calm clock) (.new (.ofDatabase db) ())
  ⟨c.committed.toDatabase, failure⟩

def migrate (db : Database) : Setup :=
  db.overConnection Store.migrate

def setUp (db : Database) : Setup :=
  db.overConnection Store.setUp

end Database

end FreshIndex.Store
