import FreshIndex.Store.Catalog

/-!
This module contains connections to a database. A connection may keep savepoints, to which it can
roll back what was changed since. Every command can be refused by the machine on which it is run,
alone or so that nothing is left of the transaction that it stands in.
-/

namespace FreshIndex.Store

inductive Command
  | change (change : Change)
  | setSavepoint (name : String)
  | rollBackTo (name : String)
  | release (name : String)
  deriving Repr, DecidableEq

/-- How far a refusal goes: a single command is not done, or its whole transaction is undone. -/
inductive Refusal
  | ofCommand (cause : StoreError)
  | ofTransaction (cause : StoreError)
  deriving Repr, DecidableEq

/--
The machine on which a database is kept: its memory, its disk, the other connections. It refuses a
command, or tells the circumstances in which it is carried out.
-/
structure Machine (σ : Type) where
  answer : Command → StateM σ (Except Refusal Circumstances)

/-- A machine that refuses nothing and on which the clock stands still. -/
def Machine.calm (moment : String) : Machine Unit where
  answer _ := return .ok ⟨moment, .ok⟩

/-- A savepoint keeps the database as it was when it was set. -/
structure Savepoint where
  name : String
  catalog : Catalog

/-- What a connection sees: the database as it is for it, and its savepoints, the latest first. -/
structure Session where
  catalog : Catalog
  savepoints : List Savepoint

namespace Session

/-- The database without the changes of a transaction that has not come to its end. -/
def committed (s : Session) : Catalog :=
  (s.savepoints.getLast?.map Savepoint.catalog).getD s.catalog

/-- The session after its transaction is undone. -/
def rolledBack (s : Session) : Session :=
  ⟨s.committed, []⟩

/-- The latest savepoint of a name, and those that were set before it. -/
def since (s : Session) (name : String) : Except StoreError (Savepoint × List Savepoint) :=
  match s.savepoints.dropWhile fun savepoint => !sameName savepoint.name name with
  | [] => .error (.noSuchSavepoint name)
  | savepoint :: before => .ok (savepoint, before)

/-- What a command does that is not refused. A savepoint stays when it is rolled back to. -/
def perform (s : Session) (given : Circumstances) : Command → Except StoreError Session
  | .change change => return { s with catalog := ← s.catalog.perform given change }
  | .setSavepoint name => return { s with savepoints := ⟨name, s.catalog⟩ :: s.savepoints }
  | .rollBackTo name => do
    let (savepoint, before) ← s.since name
    return ⟨savepoint.catalog, savepoint :: before⟩
  | .release name => do
    let (_, before) ← s.since name
    return { s with savepoints := before }

end Session

structure Connection (σ : Type) extends Session where
  machine : σ

def Connection.new {σ : Type} (catalog : Catalog) (machine : σ) : Connection σ :=
  ⟨⟨catalog, []⟩, machine⟩

/-- Commands over a connection. If one fails, what was done before it stays. -/
abbrev Transaction (σ α : Type) : Type :=
  ExceptT StoreError (StateM (Connection σ)) α

variable {σ : Type}

def execute (m : Machine σ) (command : Command) : Transaction σ Unit := do
  let c ← get
  let (answer, machine) := m.answer command c.machine
  match answer with
  | .error (.ofCommand cause) =>
    set { c with machine }
    throw cause
  | .error (.ofTransaction cause) =>
    set (Connection.mk c.rolledBack machine)
    throw cause
  | .ok given =>
    match c.perform given command with
    | .error cause =>
      set { c with machine }
      throw cause
    | .ok s => set (Connection.mk s machine)

end FreshIndex.Store
