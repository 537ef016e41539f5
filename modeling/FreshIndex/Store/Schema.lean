/-!
This module contains the tables that an index is kept in, their columns and constraints, and their
indexes.
-/

namespace FreshIndex.Store

/-- Whether two names of tables or columns are one: capitals make no difference. -/
def sameName (a b : String) : Bool :=
  a.toList.map Char.toLower == b.toList.map Char.toLower

inductive TableName
  | indexMeta
  | symbols
  | occurrences
  | relations
  | units
  | unitFiles
  | unitTests
  | migrationHistory
  deriving Repr, DecidableEq

/-- To what the values of a column are converted. -/
inductive Affinity
  | number
  | text
  deriving Repr, DecidableEq

/-- A column of a table. A reference names the table whose first column holds the same value. -/
structure Column where
  name : String
  affinity : Affinity
  notNull : Bool
  references : Option TableName
  deriving Repr

namespace Column

def number (name : String) : Column := ⟨name, .number, true, none⟩

def text (name : String) : Column := ⟨name, .text, true, none⟩

def optionalText (name : String) : Column := ⟨name, .text, false, none⟩

def numberOf (parent : TableName) (name : String) : Column := ⟨name, .number, true, some parent⟩

def textOf (parent : TableName) (name : String) : Column := ⟨name, .text, true, some parent⟩

end Column

namespace TableName

def all : List TableName :=
  [indexMeta, symbols, occurrences, relations, units, unitFiles, unitTests, migrationHistory]

def name : TableName → String
  | indexMeta => "index_meta"
  | symbols => "symbols"
  | occurrences => "occurrences"
  | relations => "relations"
  | units => "units"
  | unitFiles => "unit_files"
  | unitTests => "unit_tests"
  | migrationHistory => "migration_history"

def ofName? (s : String) : Option TableName :=
  all.find? (sameName ·.name s)

/-- Whether the first column is the id of a row, which is given out in ascending order. -/
def hasId : TableName → Bool
  | occurrences | relations | migrationHistory => true
  | _ => false

def columns : TableName → List Column
  | indexMeta => [.optionalText "key", .optionalText "value"]
  | symbols => [.optionalText "usr", .text "name", .text "kind"]
  | occurrences =>
    [.number "id", .textOf symbols "usr", .number "roles", .text "path", .number "line",
     .number "utf8_column", .number "is_system", .number "timestamp_ns"]
  | relations =>
    [.number "id", .numberOf occurrences "occurrence_id", .number "roles", .textOf symbols "usr"]
  | units => [.optionalText "unit_name", .text "main_file", .number "timestamp_ns"]
  | unitFiles =>
    [.textOf units "unit_name", .text "file_path", .number "cross_language"]
  | unitTests => [.numberOf occurrences "occurrence_id", .text "main_file"]
  | migrationHistory =>
    [.number "id", .number "from_version", .number "to_version", .text "status",
     .optionalText "error_message", .optionalText "created_at"]

def keyLength : TableName → Nat
  | unitFiles | unitTests => 2
  | _ => 1

/-- The columns that refer to other tables, the last first, with their places. -/
def references (t : TableName) : List (Nat × TableName) :=
  (t.columns.zipIdx.filterMap fun (c, i) => c.references.map (i, ·)).reverse

end TableName

/-! ### The places of the columns in the rows of their tables -/

namespace SymbolColumn

abbrev usr : Nat := 0
abbrev name : Nat := 1
abbrev kind : Nat := 2

end SymbolColumn

namespace OccurrenceColumn

abbrev id : Nat := 0
abbrev usr : Nat := 1
abbrev roles : Nat := 2
abbrev path : Nat := 3
abbrev line : Nat := 4
abbrev column : Nat := 5
abbrev isSystem : Nat := 6
abbrev timestamp : Nat := 7

end OccurrenceColumn

namespace RelationColumn

abbrev occurrence : Nat := 1
abbrev roles : Nat := 2
abbrev usr : Nat := 3

end RelationColumn

namespace UnitColumn

abbrev name : Nat := 0
abbrev mainFile : Nat := 1
abbrev timestamp : Nat := 2

end UnitColumn

namespace UnitFileColumn

abbrev unit : Nat := 0
abbrev path : Nat := 1
abbrev crossLanguage : Nat := 2

end UnitFileColumn

namespace UnitTestColumn

abbrev occurrence : Nat := 0
abbrev mainFile : Nat := 1

end UnitTestColumn

namespace MetaColumn

abbrev key : Nat := 0
abbrev value : Nat := 1

end MetaColumn

namespace HistoryColumn

abbrev createdAt : Nat := 5

end HistoryColumn

/-! ### Indexes and statements -/

inductive IndexName
  | symbolsName
  | occurrencesUsr
  | occurrencesPath
  | relationsOccurrence
  | relationsUsr
  | unitsMainFile
  | unitFilesPath
  | unitTestsMainFile
  | symbolsNameNocase
  | unitsMainFileTimestamp
  deriving Repr, DecidableEq

namespace IndexName

def name : IndexName → String
  | symbolsName => "idx_symbols_name"
  | occurrencesUsr => "idx_occurrences_usr"
  | occurrencesPath => "idx_occurrences_path"
  | relationsOccurrence => "idx_relations_occurrence"
  | relationsUsr => "idx_relations_usr"
  | unitsMainFile => "idx_units_main_file"
  | unitFilesPath => "idx_unit_files_path"
  | unitTestsMainFile => "idx_unit_tests_main_file"
  | symbolsNameNocase => "idx_symbols_name_nocase"
  | unitsMainFileTimestamp => "idx_units_main_file_timestamp"

def table : IndexName → TableName
  | symbolsName | symbolsNameNocase => .symbols
  | occurrencesUsr | occurrencesPath => .occurrences
  | relationsOccurrence | relationsUsr => .relations
  | unitsMainFile | unitsMainFileTimestamp => .units
  | unitFilesPath => .unitFiles
  | unitTestsMainFile => .unitTests

def columns : IndexName → List String
  | symbolsName | symbolsNameNocase => ["name"]
  | occurrencesUsr | relationsUsr => ["usr"]
  | occurrencesPath => ["path"]
  | relationsOccurrence => ["occurrence_id"]
  | unitsMainFile | unitTestsMainFile => ["main_file"]
  | unitFilesPath => ["file_path"]
  | unitsMainFileTimestamp => ["main_file", "timestamp_ns"]

end IndexName

/-- A statement of the schema. What is there already is left as it is. -/
inductive Statement
  | createTable (table : TableName)
  | createIndex (index : IndexName)
  deriving Repr, DecidableEq

def statements : List Statement :=
  TableName.all.map .createTable ++
    [.createIndex .symbolsName, .createIndex .occurrencesUsr, .createIndex .occurrencesPath,
     .createIndex .relationsOccurrence, .createIndex .relationsUsr, .createIndex .unitsMainFile,
     .createIndex .unitFilesPath, .createIndex .unitTestsMainFile]

def schemaVersion : Nat := 2

end FreshIndex.Store
