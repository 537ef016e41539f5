import FreshIndex.Config
import FreshIndex.Host
import FreshIndex.Pattern
import FreshIndex.Store.Error
import FreshIndex.Symbol.Occurrence

/-!
This module contains what can be seen of a run besides its results: the questions asked of the
machine and of the index, the diagnostics reported, and the log. They are kept in one trace, in the
order in which they happen.
-/

namespace FreshIndex

inductive Call
  | stat (path : FilePath)
  | readLink (path : FilePath)
  | canonicalize (path : FilePath)
  | pathExists (path : FilePath)
  | unsavedEdits (uri : DocumentUri)
  | occurrences (usr : String) (roles : Roles)
  | related (usr : String) (roles : Roles)
  | containing (pattern : String)
  | named (name : String)
  | symbols (path : String)
  | unitTests
  | unitTestsOf (paths : List String)
  | mainFiles (path : String) (crossLanguage : Bool)
  | unitDate (path : String)
  | poll
  deriving Repr, DecidableEq

/-- How grave a diagnostic is. A fault is a breach of what the index or the caller promised. -/
inductive Severity
  | warning
  | error
  | fault
  deriving Repr, DecidableEq

/-- What is reported while a query is answered. None of it makes the query fail. -/
inductive Diagnostic
  | locationUndecided (path : String) (cause : IoError)
  | unitUndecided (uri : DocumentUri) (cause : IoError)
  | realPathUnknown (path : FilePath) (cause : IoError)
  | editorNotAsked (uri : DocumentUri) (level : CheckLevel)
  | noDefinition (usr : String)
  | severalVariables
  | severalParents
  | endlessAccessors (usr : String)
  | endlessContainers (usr : String) (stoppedAt : String)
  deriving Repr, DecidableEq

namespace Diagnostic

def severity : Diagnostic → Severity
  | realPathUnknown .. => .warning
  | noDefinition .. => .error
  | _ => .fault

def message : Diagnostic → String
  | locationUndecided path cause =>
    "Unable to determine if symbol location in " ++ path ++ " is up-to-date: " ++ cause.message
  | unitUndecided uri cause =>
    "Unable to determine if " ++ uri.display ++ " has an up-to-date unit: " ++ cause.message
  | realPathUnknown path cause =>
    "Failed to resolve real path of " ++ path.text ++ " for up-to-date check: " ++ cause.message
  | editorNotAsked uri level =>
    "file_has_in_memory_modifications called for " ++ uri.display ++ " under check level " ++
      level.name ++ "; only inMemoryModifiedFiles tracks editor buffers"
  | noDefinition usr => "Failed to find definition of " ++ usr ++ " in index"
  | severalVariables =>
    "Expected an occurrence to be an accessor of at most one symbol, not multiple"
  | severalParents => "Expected an occurrence to be a child of at most one symbol, not multiple"
  | endlessAccessors usr =>
    "Accessor chain of " ++ usr ++ " does not terminate; using its own parents"
  | endlessContainers usr stoppedAt =>
    "Container chain of " ++ usr ++ " does not terminate; stopping at " ++ stoppedAt

end Diagnostic

inductive StoredQuery
  | occurrences
  | related
  | containing
  | named
  | symbols
  | unitTests
  | unitTestsOf
  | mainFiles
  | unitDate
  | poll
  deriving Repr, DecidableEq

def StoredQuery.name : StoredQuery → String
  | occurrences => "for_each_symbol_occurrence"
  | related => "occurrences_related_to_usr"
  | containing => "for_each_canonical_symbol_occurrence_containing"
  | named => "for_each_canonical_symbol_occurrence_by_name"
  | symbols => "symbols_in_file_path"
  | unitTests => "unit_tests"
  | unitTestsOf => "unit_tests_referenced_by_main_files"
  | mainFiles => "main_files_containing_file"
  | unitDate => "date_of_latest_unit_for"
  | poll => "poll_for_unit_changes_and_wait"

inductive LogEntry
  | queryFailed (query : StoredQuery) (cause : Store.StoreError)
  | synchronized (database : String) (units : Nat)
  | configured (warning : ConfigWarning)
  deriving Repr, DecidableEq

def LogEntry.message : LogEntry → String
  | queryFailed query cause =>
    "Index query " ++ query.name ++ " failed: SQLite error: " ++ cause.message
  | synchronized database units =>
    "index at " ++ database ++ " synchronized; " ++ toString units ++ " units"
  | configured warning => Config.warningMessage warning

inductive Event
  | call (call : Call)
  | diagnostic (diagnostic : Diagnostic)
  | log (entry : LogEntry)
  /-- The run ends here and has no result: the time to wait for a database is too long. -/
  | timeoutTooLong
  deriving Repr, DecidableEq

def Event.timeoutTooLongMessage : String :=
  "too big"

/-- The state of the machine and what was seen so far, latest first. -/
structure World (σ : Type) where
  state : σ
  trace : List Event

namespace World

variable {σ : Type}

def emit (e : Event) : StateM (World σ) Unit :=
  modify fun w => { w with trace := e :: w.trace }

def report (d : Diagnostic) : StateM (World σ) Unit :=
  emit (.diagnostic d)

def ask {α : Type} (call : Call) (question : σ → α × σ) : StateM (World σ) α :=
  fun w =>
    let (answer, state) := question w.state
    (answer, { state, trace := .call call :: w.trace })

def events (w : World σ) : List Event :=
  w.trace.reverse

end World

end FreshIndex
