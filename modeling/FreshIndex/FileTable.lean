import FreshIndex.Host

/-!
This module contains file systems that are given as a table: for the text of a path, what the system
answers when it is asked for exactly that text.
-/

namespace FreshIndex

/-- What a table says about a path. A failure that is given takes the place of the answer. -/
structure FileEntry where
  modified : Timestamp
  link : Option String
  statFailure : Option IoError
  readLinkFailure : Option IoError
  realPath : Option (Except IoError String)
  isThere : Bool

structure FileTable where
  entries : List (String × FileEntry)

namespace FileTable

def empty : FileTable := ⟨[]⟩

def get? (t : FileTable) (path : FilePath) : Option FileEntry :=
  t.entries.lookup path.text

def set (t : FileTable) (path : String) (entry : Option FileEntry) : FileTable :=
  let others := t.entries.filter (·.1 != path)
  match entry with
  | some e => ⟨(path, e) :: others⟩
  | none => ⟨others⟩

def noEntry (path : FilePath) : IoError :=
  ⟨.notFound, "no entry " ++ path.text⟩

def stat (t : FileTable) (path : FilePath) : Except IoError FileStat :=
  match t.get? path with
  | none => .error (noEntry path)
  | some e =>
    match e.statFailure with
    | some failure => .error failure
    | none => .ok ⟨e.modified, e.link.isSome⟩

def readLink (t : FileTable) (path : FilePath) : Except IoError FilePath :=
  match t.get? path with
  | none => .error (noEntry path)
  | some e =>
    match e.readLinkFailure, e.link with
    | some failure, _ => .error failure
    | none, some target => .ok (.ofText target)
    | none, none => .error ⟨.named "InvalidInput", "not a link"⟩

def canonicalize (t : FileTable) (path : FilePath) : Except IoError FilePath :=
  match t.get? path with
  | none => .error (noEntry path)
  | some e =>
    match e.realPath with
    | some answer => answer.map .ofText
    | none => .ok path

def pathExists (t : FileTable) (path : FilePath) : Bool :=
  ((t.get? path).map (·.isThere)).getD false

/--
What a machine answers whose files are those of a table and whose editor has changed `edited`.
-/
def snapshot (t : FileTable) (edited : List DocumentUri) : Snapshot where
  stat := t.stat
  readLink := t.readLink
  canonicalize := t.canonicalize
  pathExists := t.pathExists
  hasUnsavedEdits := edited.contains

end FileTable

end FreshIndex
