import FreshIndex.FileTree.Basic

/-!
This module contains changes to trees of files. What is made or removed in a directory counts as a
modification of the directory.
-/

namespace FreshIndex

open Text

namespace FileTree

/-- Puts something at a place. The root is always there, and only its time can be another. -/
def put (t : FileTree) (place : Place) (entry : TreeEntry) : FileTree :=
  if place.isEmpty then { t with rootModified := entry.modified }
  else { t with entries := (place, entry) :: t.entries.filter (·.1 != place) }

def touch (t : FileTree) (place : Place) : FileTree :=
  match t.get? place with
  | some entry => t.put place { entry with modified := now }
  | none => t

def make (t : FileTree) (place : Place) (node : FileNode) : FileTree :=
  (t.put place ⟨node, now⟩).touch place.dropLast

def remove (t : FileTree) (place : Place) : FileTree :=
  match t.get? place with
  | none => t
  | some _ =>
    let kept := t.entries.filter fun (other, _) => !place.isPrefixOf other
    { t with entries := kept }.touch place.dropLast

inductive MakeError
  | alreadyThere
  | walk (cause : WalkError)
  deriving Repr, DecidableEq

def MakeError.toIoError : MakeError → IoError
  | alreadyThere => ⟨.named "AlreadyExists", "File exists (os error 17)"⟩
  | walk cause => cause.toIoError

def makeDirectory (t : FileTree) (directory : Place) (p : FilePath) : Except MakeError FileTree :=
  if p.octets.contains 0 then .error (.walk .holdsNul)
  else if p.octets.isEmpty then .error (.walk .missing)
  else if maxPathLength < p.octets.length then .error (.walk .nameTooLong)
  else
    let names := (p.octets.splitOn FilePath.slash).filter (!·.isEmpty)
    let start := if p.isAbsolute then [] else directory
    match names.getLast? with
    | none => .error .alreadyThere
    | some name =>
      match walk t true maxLinks start names.dropLast with
      | .error e => .error (.walk e)
      | .ok place =>
        if !t.isDirectory place then .error (.walk .notADirectory)
        else if name = here ∨ name = above then .error .alreadyThere
        else if maxNameLength < name.length then .error (.walk .nameTooLong)
        else if (t.get? (place ++ [name])).isSome then .error .alreadyThere
        else .ok (t.make (place ++ [name]) .directory)

def leadsToDirectory (t : FileTree) (directory : Place) (p : FilePath) : Bool :=
  match t.resolve directory true p with
  | .ok place => t.isDirectory place
  | .error _ => false

/--
Makes a directory and those above it that are missing; `fuel` bounds how many are looked at. A
directory that is there is left as it is.
-/
def makeDirectoriesWithin (t : FileTree) (directory : Place) :
    (fuel : Nat) → (p : FilePath) → Except MakeError FileTree
  | 0, _ => .error (.walk .missing)
  | fuel + 1, p =>
    if p.octets.isEmpty then .ok t
    else
      match t.makeDirectory directory p with
      | .ok t => .ok t
      | .error (.walk .missing) => do
        let t ←
          match p.parent? with
          | some parent => makeDirectoriesWithin t directory fuel parent
          | none => .error (.walk .missing)
        match t.makeDirectory directory p with
        | .ok t => .ok t
        | .error e => if t.leadsToDirectory directory p then .ok t else .error e
      | .error e => if t.leadsToDirectory directory p then .ok t else .error e

def makeDirectories (t : FileTree) (directory : Place) (p : FilePath) : Except MakeError FileTree :=
  makeDirectoriesWithin t directory (p.octets.length + 1) p

inductive TreeChange
  | make (node : FileNode) (modified : Option Timestamp)
  | remove

/--
The tree after a change at a path below `directory`. Directories above it are made, and a file or a
link takes the place of one that is there.
-/
def change (t : FileTree) (directory : Place) (p : FilePath) (c : TreeChange) : FileTree :=
  let inside := (pathOf directory).join p
  let place (t : FileTree) : Place :=
    match inside.parent?.map (t.resolve directory true) with
    | some (.ok above) => above ++ (p.names.getLast?.map ([·])).getD []
    | _ => directory ++ p.names
  match c with
  | .remove => t.remove (place t)
  | .make node modified =>
    let t :=
      match inside.parent?.map (t.makeDirectories directory) with
      | some (.ok t) => t
      | _ => t
    let spot := place t
    let t :=
      match node, (t.get? spot).map (·.node) with
      | .directory, some .directory => t
      | .file, some .file => t.put spot ⟨.file, now⟩
      | node, _ => (t.remove spot).make spot node
    match modified with
    | some modified => t.put spot ⟨node, modified⟩
    | none => t

end FileTree

end FreshIndex
