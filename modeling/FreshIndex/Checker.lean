import FreshIndex.Memo
import FreshIndex.RawIndex

/-!
This module contains the checker, which decides whether what an index says about a file still holds.
It asks about each file at most once and keeps the answers, so that all that one checker says is
about one state of the machine. A file that cannot be examined is taken to be up to date, and a
fault is reported.
-/

namespace FreshIndex

variable {σ : Type}

inductive ModificationTime
  | fileDoesNotExist
  | date (modified : Timestamp)
  deriving Repr, DecidableEq

structure Checker where
  level : CheckLevel
  unsavedEdits : Memo DocumentUri Bool
  modificationTimes : Memo DocumentUri ModificationTime
  existence : Memo DocumentUri Bool

def Checker.ofLevel (level : CheckLevel) : Checker where
  level
  unsavedEdits := .empty
  modificationTimes := .empty
  existence := .empty

structure Checking (σ : Type) where
  checker : Checker
  world : World σ

namespace Checking

def inWorld {α : Type} (act : StateM (World σ) α) : StateM (Checking σ) α :=
  fun c =>
    let (a, world) := act c.world
    (a, { c with world })

end Checking

namespace Checker

def maxHops : Nat := 40

/-- Where a link at `link` to `target` leads: a relative target starts from the link's directory. -/
def linkDestination (link target : FilePath) : FilePath :=
  if target.isAbsolute then target
  else
    match link.parent? with
    | some directory => directory.join target
    | none => target

def tooManyLinks (start : FilePath) : IoError :=
  ⟨.named "Other", "too many levels of symbolic links at " ++ start.text⟩

/--
The latest modification of `current` and of all that its links lead to, if at most `hops` more links
are followed.
-/
def latestInChain (host : Host σ) (start : FilePath) :
    (hops : Nat) → (current : FilePath) → StateM (World σ) (Except IoError Timestamp)
  | hops, current => do
    match ← World.ask (.stat current) (host.stat current) with
    | .error e => return .error e
    | .ok stat =>
      if !stat.isLink then
        return .ok stat.modified
      else
        match hops with
        | 0 => return .error (tooManyLinks start)
        | hops + 1 =>
          match ← World.ask (.readLink current) (host.readLink current) with
          | .error e => return .error e
          | .ok target =>
            match ← latestInChain host start hops (linkDestination current target) with
            | .error e => return .error e
            | .ok later => return .ok (max stat.modified later)

/-- When a document was last modified: a link that was set anew counts as a modification. -/
def findModificationTime (host : Host σ) (uri : DocumentUri) :
    StateM (World σ) (Except IoError ModificationTime) := do
  match uri.filePath? with
  | none => return .ok .fileDoesNotExist
  | some path =>
    match ← latestInChain host path maxHops path with
    | .ok modified => return .ok (.date modified)
    | .error e => if e.kind = .notFound then return .ok .fileDoesNotExist else return .error e

def modificationTime (host : Host σ) (uri : DocumentUri) :
    StateM (Checking σ) (Except IoError ModificationTime) := do
  match (← get).checker.modificationTimes.get? uri with
  | some time => return .ok time
  | none =>
    match ← Checking.inWorld (findModificationTime host uri) with
    -- A failure is not kept, so that the next one who asks has the file looked at again.
    | .error e => return .error e
    | .ok time =>
      modify fun c =>
        { c with checker.modificationTimes := c.checker.modificationTimes.insert uri time }
      return .ok time

def fileExists (host : Host σ) (uri : DocumentUri) : StateM (Checking σ) Bool := do
  match (← get).checker.existence.get? uri with
  | some answer => return answer
  | none =>
    let answer ←
      match uri.filePath? with
      | none => pure false
      | some path => Checking.inWorld (World.ask (.pathExists path) (host.pathExists path))
    modify fun c => { c with checker.existence := c.checker.existence.insert uri answer }
    return answer

def hasUnsavedEdits (host : Host σ) (uri : DocumentUri) : StateM (Checking σ) Bool := do
  let checker := (← get).checker
  if checker.level.asksEditor then
    match checker.unsavedEdits.get? uri with
    | some answer => return answer
    | none =>
      let answer ← Checking.inWorld (World.ask (.unsavedEdits uri) (host.hasUnsavedEdits uri))
      modify fun c => { c with checker.unsavedEdits := c.checker.unsavedEdits.insert uri answer }
      return answer
  else
    return false

def isFresh (host : Host σ) (l : Location) : StateM (Checking σ) Bool := do
  let uri := DocumentUri.ofPathText l.path
  if (← get).checker.level = .deletedFiles then
    fileExists host uri
  else if ← hasUnsavedEdits host uri then
    return false
  else
    match ← modificationTime host uri with
    | .ok .fileDoesNotExist => return false
    | .ok (.date modified) => return modified ≤ l.timestamp
    | .error e =>
      -- A file that cannot be examined counts as up to date.
      Checking.inWorld (World.report (.locationUndecided l.path e))
      return true

/--
Whether the index holds a unit for `file` that is newer than the file. A header has no unit of its
own; for it the unit of the main file that includes it is looked at.
-/
def hasFreshUnit (host : Host σ) (index : RawIndex σ) (file : DocumentUri)
    (mainFile : Option DocumentUri) : StateM (Checking σ) Bool := do
  if (← get).checker.level = .deletedFiles then
    return true
  else if ← hasUnsavedEdits host file then
    return false
  else
    match (mainFile.getD file).filePath? with
    | none => return false
    | some unitPath =>
      let question := World.ask (.canonicalize unitPath) (host.canonicalize unitPath)
      match ← Checking.inWorld question with
      | .error e =>
        if e.kind = .notFound then
          return false
        else
          Checking.inWorld (World.report (.realPathUnknown unitPath e))
          return true
      | .ok realPath =>
        match ← Checking.inWorld (index.latestUnitDate realPath.text) with
        | none => return false
        | some unitDate =>
          match ← modificationTime host file with
          | .ok .fileDoesNotExist => return false
          | .ok (.date modified) => return modified ≤ unitDate
          | .error e =>
            Checking.inWorld (World.report (.unitUndecided file e))
            return true

/-- Whether the editor holds changes to a document. At a level that does not ask it, a fault. -/
def fileHasUnsavedEdits (host : Host σ) (uri : DocumentUri) : StateM (Checking σ) Bool := do
  let level := (← get).checker.level
  if level.asksEditor then
    hasUnsavedEdits host uri
  else
    Checking.inWorld (World.report (.editorNotAsked uri level))
    return false

end Checker

end FreshIndex
