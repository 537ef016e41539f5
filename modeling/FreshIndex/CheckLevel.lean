/-!
This module contains how strictly the results of an index are held against the files they are about.
-/

namespace FreshIndex

/--
When a result is stale: if its file is gone; also if the file was changed on disk after it was
indexed; also if an editor holds changes to it that are not saved.
-/
inductive CheckLevel
  | deletedFiles
  | modifiedFiles
  | inMemoryModifiedFiles
  deriving Repr, DecidableEq

namespace CheckLevel

def name : CheckLevel → String
  | deletedFiles => "deletedFiles"
  | modifiedFiles => "modifiedFiles"
  | inMemoryModifiedFiles => "inMemoryModifiedFiles"

def asksEditor : CheckLevel → Bool
  | inMemoryModifiedFiles => true
  | _ => false

end CheckLevel

end FreshIndex
