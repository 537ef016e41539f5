import FreshIndex.FileTree.Basic

/-!
This module contains what a machine answers whose files form a tree.
-/

namespace FreshIndex

namespace FileTree

def entryAt (t : FileTree) (directory : Place) (followLast : Bool) (p : FilePath) :
    Except IoError TreeEntry :=
  match t.resolve directory followLast p with
  | .error e => .error e.toIoError
  | .ok place =>
    match t.get? place with
    | some entry => .ok entry
    | none => .error WalkError.missing.toIoError

def stat (t : FileTree) (directory : Place) (p : FilePath) : Except IoError FileStat :=
  (t.entryAt directory false p).map fun entry =>
    ⟨entry.modified, match entry.node with | .link _ => true | _ => false⟩

def readLink (t : FileTree) (directory : Place) (p : FilePath) : Except IoError FilePath :=
  match t.entryAt directory false p with
  | .error e => .error e
  | .ok ⟨.link target, _⟩ => .ok target
  | .ok _ => .error ⟨.named "InvalidInput", "Invalid argument (os error 22)"⟩

/-- The path of the same file without links. That path, not the one asked for, may be too long. -/
def canonicalize (t : FileTree) (directory : Place) (p : FilePath) : Except IoError FilePath :=
  match t.locate directory true p with
  | .error e => .error e.toIoError
  | .ok place =>
    let found := pathOf place
    if maxPathLength < found.octets.length then .error WalkError.nameTooLong.toIoError
    else .ok found

def pathExists (t : FileTree) (directory : Place) (p : FilePath) : Bool :=
  (t.entryAt directory true p).isOk

/--
What a machine answers whose files form a tree, whose working directory is `directory` and whose
editor has changed `edited`.
-/
def snapshot (t : FileTree) (directory : Place) (edited : List DocumentUri) : Snapshot where
  stat := t.stat directory
  readLink := t.readLink directory
  canonicalize := t.canonicalize directory
  pathExists := t.pathExists directory
  hasUnsavedEdits := edited.contains

end FileTree

end FreshIndex
