import FreshIndex.Text.Utf8

/-!
This module contains the paths of files as the file system is asked for them: octets with slashes
between names. The normal form of a path has no `.` and no slash that is not needed; it keeps every
`..`, since the directory above a link's target is not the one above the link.
-/

namespace FreshIndex

open Text

@[ext]
structure FilePath where
  octets : Octets
  deriving Repr, DecidableEq

namespace FilePath

def slash : UInt8 := 0x2F

def point : UInt8 := 0x2E

def ofText (s : String) : FilePath :=
  ⟨Text.octets s⟩

/-- The path as text, with replacement characters where it is none. -/
def text (p : FilePath) : String :=
  ofOctets p.octets

def isAbsolute (p : FilePath) : Bool :=
  p.octets.head? == some slash

/-- Whether a part of a path leaves the directory as it is. -/
def isIdle (part : Octets) : Bool :=
  part.isEmpty || part == [point]

def names (p : FilePath) : List Octets :=
  (p.octets.splitOn slash).filter (!isIdle ·)

/-- Names with single slashes between them, and one in front if the path starts at the root. -/
def ofNames (isAbsolute : Bool) (names : List Octets) : FilePath :=
  ⟨(if isAbsolute then [slash] else []) ++ [slash].intercalate names⟩

def normalize (p : FilePath) : FilePath :=
  ofNames p.isAbsolute p.names

/--
The directory that the path is in: the path up to its last name, without what is idle before that
name. The root and the empty path are in no directory.
-/
def parent? (p : FilePath) : Option FilePath :=
  match p.octets.splitOn slash with
  | [] => none
  | head :: tail =>
    match tail.reverse.dropWhile isIdle with
    | _ :: before =>
      let kept := head :: (before.dropWhile isIdle).reverse
      some ⟨if kept = [[]] then [slash] else [slash].intercalate kept⟩
    | [] => if head.isEmpty then none else some ⟨[]⟩

def join (p q : FilePath) : FilePath :=
  if q.isAbsolute then q
  else if p.octets.isEmpty || p.octets.getLast? == some slash then ⟨p.octets ++ q.octets⟩
  else ⟨p.octets ++ slash :: q.octets⟩

/-- A step along a path. The order is that of the constructors: root, upwards, downwards by name. -/
inductive Component
  | root
  | parent
  | name (octets : Octets)
  deriving Repr, DecidableEq, Ord

def components (p : FilePath) : List Component :=
  (if p.isAbsolute then [.root] else []) ++
    p.names.map fun n => if n = [point, point] then .parent else .name n

end FilePath

end FreshIndex
