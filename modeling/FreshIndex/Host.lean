import FreshIndex.DocumentUri
import FreshIndex.Timestamp

/-!
This module contains what a checker asks of the machine it runs on: metadata of files, and whether
an editor holds unsaved changes. An answer may depend on the state of the machine and may change it.
The answers that a machine gives in one state are a snapshot of it.
-/

namespace FreshIndex

variable {σ : Type}

/-- The kind of a failed file operation. Only a missing file is told apart from all else. -/
inductive IoErrorKind
  | notFound
  | named (name : String)
  deriving Repr, DecidableEq

def IoErrorKind.name : IoErrorKind → String
  | notFound => "NotFound"
  | named name => name

def IoErrorKind.ofName (name : String) : IoErrorKind :=
  if name = "NotFound" then notFound else named name

structure IoError where
  kind : IoErrorKind
  message : String
  deriving Repr, DecidableEq

/-- The metadata of a path itself; a link is not followed. -/
structure FileStat where
  modified : Timestamp
  isLink : Bool
  deriving Repr, DecidableEq

structure Host (σ : Type) where
  stat : FilePath → σ → Except IoError FileStat × σ
  /-- The target of the link at a path, as it is written in the link. -/
  readLink : FilePath → σ → Except IoError FilePath × σ
  /-- The path of the same file that passes no link. -/
  canonicalize : FilePath → σ → Except IoError FilePath × σ
  /-- Whether there is a file at a path, links followed. -/
  pathExists : FilePath → σ → Bool × σ
  hasUnsavedEdits : DocumentUri → σ → Bool × σ

structure Snapshot where
  stat : FilePath → Except IoError FileStat
  readLink : FilePath → Except IoError FilePath
  canonicalize : FilePath → Except IoError FilePath
  pathExists : FilePath → Bool
  hasUnsavedEdits : DocumentUri → Bool

/-- The machine that answers by the snapshot of its state and is not changed by being asked. -/
def Host.ofSnapshot (snapshot : σ → Snapshot) : Host σ where
  stat path s := ((snapshot s).stat path, s)
  readLink path s := ((snapshot s).readLink path, s)
  canonicalize path s := ((snapshot s).canonicalize path, s)
  pathExists path s := ((snapshot s).pathExists path, s)
  hasUnsavedEdits uri s := ((snapshot s).hasUnsavedEdits uri, s)

end FreshIndex
