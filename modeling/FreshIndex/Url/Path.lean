import FreshIndex.Text.Percent

/-!
This module contains the paths of URLs. A segment `.` is dropped and a segment `..` takes the one
before it away, also where the points are written by their code. A path in a `file` URL may start at
a drive, a letter with a colon or a bar after it, which no `..` takes away.
-/

namespace FreshIndex.Url

open Text

/-- Whether `c` may stand anywhere in the text of a URL without being part of it. -/
def isBreak (c : Char) : Bool :=
  c == '\t' || c == '\n' || c == '\r'

def unbroken (cs : List Char) : List Char :=
  cs.filter (!isBreak ·)

def isDot (segment : List Char) : Bool :=
  segment = ['.'] || segment.map Char.toLower = ['%', '2', 'e']

def isDoubleDot (segment : List Char) : Bool :=
  let point := ['%', '2', 'e']
  let s := segment.map Char.toLower
  s = ['.', '.'] || s = '.' :: point || s = point ++ ['.'] || s = point ++ point

def drive? : (cs : List Char) → Option Char
  | [c, d] => if c.isAlpha && (d == ':' || d == '|') then some c else none
  | _ => none

/-- Whether a segment names a drive, which no `..` takes away. -/
def isDrive (segment : List Char) : Bool :=
  match segment with
  | c :: d :: '\\' :: _ => (drive? [c, d]).isSome
  | _ => (drive? segment).isSome

def driveSegment (letter : Char) : List Char :=
  [letter, ':']

/--
The letter of the drive that a segment starts with, and the rest of the segment, where at least one
break stands between the two.
-/
def drivePart? (segment : List Char) : Option (Char × List Char) :=
  match segment.dropWhile isBreak with
  | c :: rest =>
    match rest.dropWhile isBreak with
    | ':' :: b :: rest =>
      if c.isAlpha && isBreak b && !(unbroken rest).isEmpty then some (c, rest) else none
    | _ => none
  | [] => none

/-- The segment as it is kept: escaped, and without breaks. -/
def escapedSegment (segment : List Char) : List Char :=
  Percent.encode Percent.path (unbroken segment)

structure Trail where
  kept : List (List Char)
  /-- Whether the path starts at a drive, so that there is no host. -/
  hasDrive : Bool
  deriving Repr, DecidableEq

namespace Trail

def root : Trail := ⟨[], false⟩

/-- The trail without its last segment, save if that is a drive. -/
def up (t : Trail) : Trail :=
  match t.kept with
  | [] => t
  | last :: before => if isDrive last then t else { t with kept := before }

def push (t : Trail) (segment : List Char) : Trail :=
  { t with kept := segment :: t.kept }

/--
The trail with the first segment of the path of a `file` URL. If a drive is parted from the rest of
the segment by a break, the rest is a segment of its own, and the host stays.
-/
def start (t : Trail) (segment : List Char) : Trail :=
  match drivePart? segment with
  | some (letter, rest) => (t.push (driveSegment letter)).push (escapedSegment rest)
  | none =>
    match drive? (escapedSegment segment) with
    | some letter => { t.push (driveSegment letter) with hasDrive := true }
    | none => t.push (escapedSegment segment)

/-- The trail after a segment of a path, which is that of a `file` URL if `isFile` holds. -/
def follow (isFile : Bool) (t : Trail) (segment : List Char) : Trail :=
  let escaped := escapedSegment segment
  if isDoubleDot escaped then t.up
  else if isDot escaped then t
  else if isFile && t.kept.isEmpty then t.start segment
  else t.push escaped

/-- The trail along the segments of a whole path. It ends in a directory if the last one is dots. -/
def along (isFile : Bool) (segments : List (List Char)) : Trail :=
  let t := segments.foldl (follow isFile) root
  let last := escapedSegment (segments.getLast?.getD [])
  if isDoubleDot last || isDot last then t.push [] else t

def segments (t : Trail) : List (List Char) :=
  t.kept.reverse

end Trail

def joinSegments (segments : List (List Char)) : List Char :=
  segments.flatMap ('/' :: ·)

end FreshIndex.Url
