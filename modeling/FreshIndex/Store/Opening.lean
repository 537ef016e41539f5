import FreshIndex.FileTree.Change
import FreshIndex.Store.Error

/-!
This module contains the choice of the file that a database is kept in. The directories on the way
to it are made; the file itself is made by the first connection, unless something else is in its
place.
-/

namespace FreshIndex.Store

open FileTree Text

/-- The greatest length in octets of a path that is looked at on the way to a database. -/
def maxPathOnTheWay : Nat := 511

def maxDatabasePath : Nat := 504

def journalSuffix : String := "-journal"

structure OpeningError where
  cause : MakeError
  deriving Repr, DecidableEq

def OpeningError.message (e : OpeningError) : String :=
  "IO error: " ++ e.cause.toIoError.message

/--
The path of a database, seen from the working directory, and the tree in which the directory that it
is in has been made.
-/
def openAt (t : FileTree) (workingDirectory path : FilePath) :
    Except OpeningError (FilePath × FileTree) :=
  let resolved := workingDirectory.join path
  match resolved.parent?.map (t.makeDirectories workingDirectory.names) with
  | none => .ok (resolved, t)
  | some (.ok t) => .ok (resolved, t)
  | some (.error cause) => .error ⟨cause⟩

def pathLength (place : Place) : Nat :=
  place.foldr (fun name length => name.length + 1 + length) 0

/--
The place that names lead to from another place when every `..` takes away the name before it, if no
path on the way is too long.
-/
def lexicalPlace? : (place : Place) → (names : List Octets) → Option Place
  | place, [] => some place
  | place, name :: rest =>
    if name = above then lexicalPlace? place.dropLast rest
    else
      let next := place ++ [name]
      if maxNameLength < name.length ∨ maxPathOnTheWay < pathLength next then none
      else lexicalPlace? next rest

/-- Whether the name of the journal beside the database at a place is too long. -/
def lacksJournal (place : Place) : Bool :=
  decide (maxNameLength < (place.getLast?.map (·.length)).getD 0 + journalSuffix.utf8ByteSize)

/-- Connects to the database at a path, which makes its file, and begins a change. -/
def connect (t : FileTree) (path : FilePath) : Except StoreError FileTree :=
  let failure := StoreError.cannotOpen path.text
  match lexicalPlace? [] path.names with
  | none => .error failure
  | some place =>
    if maxDatabasePath < pathLength place ∨ t.isDirectory place ∨ !t.isDirectory place.dropLast then
      .error failure
    else if lacksJournal place then .error .cannotOpenJournal
    else if (t.get? place).isSome then .ok t
    else .ok (t.make place .file)

end FreshIndex.Store
