import FreshIndex.Host

/-!
This module contains trees of files, directories and links, and how a path is followed in them: link
by link, at most forty in all, where `..` leads to the directory above the one that has been
reached.
-/

namespace FreshIndex

open Text

inductive FileNode
  | file
  | directory
  | link (target : FilePath)
  deriving Repr, DecidableEq

/-- A place: the names on the way to it from the root. -/
abbrev Place := List Octets

structure TreeEntry where
  node : FileNode
  modified : Timestamp
  deriving Repr, DecidableEq

/-- A tree, by when its root was modified and what stands at its other places. -/
structure FileTree where
  rootModified : Timestamp
  entries : List (Place × TreeEntry)

namespace FileTree

/-- The moment of changes that are made without one being given. -/
def now : Timestamp := ⟨1760000000000000000⟩

def empty : FileTree := ⟨now, []⟩

def get? (t : FileTree) (place : Place) : Option TreeEntry :=
  if place.isEmpty then some ⟨.directory, t.rootModified⟩ else t.entries.lookup place

def isDirectory (t : FileTree) (place : Place) : Bool :=
  (t.get? place).any (·.node == .directory)

inductive WalkError
  | missing
  | notADirectory
  | tooManyLinks
  | nameTooLong
  | holdsNul
  deriving Repr, DecidableEq

def WalkError.toIoError : WalkError → IoError
  | missing => ⟨.notFound, "No such file or directory (os error 2)"⟩
  | notADirectory => ⟨.named "NotADirectory", "Not a directory (os error 20)"⟩
  | tooManyLinks => ⟨.named "FilesystemLoop", "Too many levels of symbolic links (os error 40)"⟩
  | nameTooLong => ⟨.named "InvalidFilename", "File name too long (os error 36)"⟩
  | holdsNul => ⟨.named "InvalidInput", "file name contained an unexpected NUL byte"⟩

def maxLinks : Nat := 40

def maxNameLength : Nat := 255

def maxPathLength : Nat := 4095

def here : Octets := [FilePath.point]

def above : Octets := [FilePath.point, FilePath.point]

/--
The names along a path, `.` and `..` among them. A slash at the end asks for a directory, as a `.`
after it does.
-/
def parts (p : FilePath) : List Octets :=
  let names := (p.octets.splitOn FilePath.slash).filter (!·.isEmpty)
  if p.octets.getLast? = some FilePath.slash ∧ !names.isEmpty then names ++ [here] else names

/--
Goes from `place` along `rest`. Where a link is to be followed, `beyond` goes on from there. A link
at the end is followed if `followLast` holds.
-/
def walkUntilLink (t : FileTree) (followLast : Bool)
    (beyond : Place → List Octets → Except WalkError Place) :
    (place : Place) → (rest : List Octets) → Except WalkError Place
  | place, [] => .ok place
  | place, part :: rest =>
    if !t.isDirectory place then .error .notADirectory
    else if part = here then walkUntilLink t followLast beyond place rest
    else if part = above then walkUntilLink t followLast beyond place.dropLast rest
    else if maxNameLength < part.length then .error .nameTooLong
    else
      match t.get? (place ++ [part]) with
      | none => .error .missing
      | some ⟨.link target, _⟩ =>
        if rest.isEmpty && !followLast then .ok (place ++ [part])
        else beyond (if target.isAbsolute then [] else place) (parts target ++ rest)
      | some _ => walkUntilLink t followLast beyond (place ++ [part]) rest

/-- Goes from `place` along `rest`, over at most `links` links. -/
def walk (t : FileTree) (followLast : Bool) :
    (links : Nat) → (place : Place) → (rest : List Octets) → Except WalkError Place
  | 0 => t.walkUntilLink followLast fun _ _ => .error .tooManyLinks
  | links + 1 => t.walkUntilLink followLast (t.walk followLast links)

/--
The place that a path leads to, seen from the directory `directory` if it is relative, however long
the text of the path is.
-/
def locate (t : FileTree) (directory : Place) (followLast : Bool) (p : FilePath) :
    Except WalkError Place :=
  if p.octets.contains 0 then .error .holdsNul
  else if p.octets.isEmpty then .error .missing
  else walk t followLast maxLinks (if p.isAbsolute then [] else directory) (parts p)

def resolve (t : FileTree) (directory : Place) (followLast : Bool) (p : FilePath) :
    Except WalkError Place :=
  if maxPathLength < p.octets.length ∧ !p.octets.contains 0 then .error .nameTooLong
  else t.locate directory followLast p

def pathOf (place : Place) : FilePath :=
  .ofNames true place

end FileTree

end FreshIndex
