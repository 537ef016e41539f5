import FreshIndex.CheckLevel
import FreshIndex.Number.Numeral
import FreshIndex.Text.Blank
import FreshIndex.Text.LowerCase
import FreshIndex.Text.Quoted

/-!
This module contains the configuration, which is read from named settings. A setting that cannot be
read keeps its default, and a warning says so.
-/

namespace FreshIndex

/-- A check level as it is configured, before it is known whether there is an editor to ask. -/
inductive CheckLevelSetting
  | deleted
  | modified
  | inMemory
  deriving Repr, DecidableEq

namespace CheckLevelSetting

def label : CheckLevelSetting → String
  | deleted => "Deleted"
  | modified => "Modified"
  | inMemory => "InMemory"

/-- The setting that a text names, or the text in the form in which it was not known. -/
def parse (text : String) : Except String CheckLevelSetting :=
  match Text.lowerCase (Text.trim text) with
  | "deleted" | "deleted-files" => .ok deleted
  | "modified" | "modified-files" => .ok modified
  | "in-memory" | "in-memory-modified-files" => .ok inMemory
  | unknown => .error unknown

def unknownMessage (unknown : String) : String :=
  "Configuration error: unknown check level '" ++ unknown ++ "'"

end CheckLevelSetting

inductive ConfigWarning
  | unknownLevel (unknown : String) (used : CheckLevelSetting)
  | invalidTimeout (raw : String) (cause : NumeralError)
  | noEditor
  deriving Repr, DecidableEq

structure Config where
  level : CheckLevelSetting
  busyTimeout : Nat
  deriving Repr, DecidableEq

namespace Config

def levelVariable : String := "INDEXGUARD_CHECK_LEVEL"

def timeoutVariable : String := "INDEXGUARD_BUSY_TIMEOUT_MS"

def standard : Config where
  level := .deleted
  busyTimeout := 5000

def warningMessage : ConfigWarning → String
  | .unknownLevel unknown used =>
    levelVariable ++ ": " ++ CheckLevelSetting.unknownMessage unknown ++ "; using " ++ used.label
  | .invalidTimeout raw cause =>
    timeoutVariable ++ "=" ++ Text.quoted raw ++ " is not a number of milliseconds: " ++
      cause.message
  | .noEditor =>
    "in-memory check level requested without a document manager; using modified"

def readLevel (raw : Option String) : CheckLevelSetting × List ConfigWarning :=
  match raw.map CheckLevelSetting.parse with
  | none => (standard.level, [])
  | some (.ok level) => (level, [])
  | some (.error unknown) => (standard.level, [.unknownLevel unknown standard.level])

def readTimeout (raw : Option String) : Nat × List ConfigWarning :=
  match raw with
  | none => (standard.busyTimeout, [])
  | some raw =>
    match Numeral.readNat 10 (Nat.pow 2 64 - 1) (Text.trim raw).toList with
    | .ok milliseconds => (milliseconds, [])
    | .error cause => (standard.busyTimeout, [.invalidTimeout raw cause])

def ofLookup (lookup : String → Option String) : Config × List ConfigWarning :=
  let (level, levelWarnings) := readLevel (lookup levelVariable)
  let (busyTimeout, timeoutWarnings) := readTimeout (lookup timeoutVariable)
  ({ level, busyTimeout }, levelWarnings ++ timeoutWarnings)

/-- A time in milliseconds with its unit: from one second on in seconds, as short as possible. -/
def durationText (milliseconds : Nat) : String :=
  if milliseconds = 0 then "0ns"
  else if milliseconds < 1000 then toString milliseconds ++ "ms"
  else
    let digits := Nat.toDigits 10 (1000 + milliseconds % 1000)
    let fraction := ((digits.drop 1).reverse.dropWhile (· == '0')).reverse
    let point := if fraction.isEmpty then [] else ['.']
    toString (milliseconds / 1000) ++ String.ofList (point ++ fraction ++ ['s'])

end Config

/-- The level of a setting. Without an editor to ask, files on disk are all that is checked. -/
def CheckLevelSetting.toCheckLevel (setting : CheckLevelSetting) (hasEditor : Bool) :
    CheckLevel × List ConfigWarning :=
  match setting with
  | deleted => (.deletedFiles, [])
  | modified => (.modifiedFiles, [])
  | inMemory => if hasEditor then (.inMemoryModifiedFiles, []) else (.modifiedFiles, [.noEditor])

end FreshIndex
