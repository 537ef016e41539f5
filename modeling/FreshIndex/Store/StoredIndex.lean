import FreshIndex.RawIndex
import FreshIndex.Store.Migration
import FreshIndex.Store.Query

/-!
This module contains the index that is kept in a database. A query that fails is answered with
nothing, or with what an enumeration has shown before the failure, and an entry in the log.
-/

namespace FreshIndex.Store

variable {σ : Type}

structure StoredIndex where
  path : FilePath
  busyTimeout : Nat

namespace StoredIndex

/-- The longest time to wait that a connection can be told. -/
def maxBusyTimeout : Nat := 2147483647

def canConnect (i : StoredIndex) : Bool :=
  i.busyTimeout ≤ maxBusyTimeout

def failureEvents (query : StoredQuery) (failure : Option StoreError) : List Event :=
  (failure.map fun cause => .log (.queryFailed query cause)).toList

def scan (i : StoredIndex) (query : StoredQuery) (outcome : Outcome) : Scan :=
  if i.canConnect then ⟨outcome.visited, failureEvents query outcome.failure⟩
  else ⟨[], [.timeoutTooLong]⟩

/-- The answer to a query over a connection; `fallback` if it fails. -/
def reply {α : Type} (i : StoredIndex) (query : StoredQuery) (fallback : α)
    (result : Except StoreError α) : Reply α :=
  if i.canConnect then
    match result with
    | .ok value => ⟨value, []⟩
    | .error cause => ⟨fallback, failureEvents query (some cause)⟩
  else
    ⟨fallback, [.timeoutTooLong]⟩

/-- The list of an enumeration, if it came to its end. -/
def complete (outcome : Outcome) : Except StoreError (List Occurrence) :=
  match outcome.failure with
  | none => .ok outcome.visited
  | some cause => .error cause

/-- The answer to the query for tests of main files. For no files, no connection is made. -/
def unitTestsReply (i : StoredIndex) (db : Database) (paths : List String) :
    Reply (List Occurrence) :=
  if paths.isEmpty then ⟨[], []⟩
  else i.reply .unitTestsOf [] (complete (db.unitTestOccurrencesOf paths))

def pollReply (i : StoredIndex) (db : Database) : Reply Unit :=
  let r := i.reply .poll none (db.synchronize.map some)
  ⟨(), r.events ++ (r.value.map fun units => .log (.synchronized i.path.text units)).toList⟩

/-- Sets the database up over a connection: why that failed, if it did, and the database then. -/
def setUp (i : StoredIndex) (db : Database) : Reply (Option SetupError) × Database :=
  if i.canConnect then (⟨db.setUp.failure, []⟩, db.setUp.database)
  else (⟨none, [.timeoutTooLong]⟩, db)

def toRawIndex (i : StoredIndex) (database : σ → Database) : RawIndex σ where
  occurrences usr roles s := (i.scan .occurrences ((database s).occurrencesOf usr roles), s)
  related usr roles s :=
    (i.reply .related [] (complete ((database s).occurrencesRelatedTo usr roles)), s)
  containing pattern options s :=
    (i.scan .containing ((database s).occurrencesContaining pattern options), s)
  named name s := (i.scan .named ((database s).occurrencesNamed name), s)
  symbols path s := (i.reply .symbols [] ((database s).symbolsAt path), s)
  unitTests s := (i.reply .unitTests [] (complete (database s).unitTestOccurrences), s)
  unitTestsOf paths s := (i.unitTestsReply (database s) paths, s)
  mainFiles path crossLanguage s :=
    (i.reply .mainFiles [] ((database s).mainFilesOf path crossLanguage), s)
  unitDate path s := (i.reply .unitDate none ((database s).latestUnitDate path), s)
  poll s := (i.pollReply (database s), s)

end StoredIndex

end FreshIndex.Store
