import FreshIndex.Text.Utf8

/-!
This module contains the failures of the database that an index is kept in.
-/

namespace FreshIndex.Store

inductive CellType
  | null
  | integer
  | real
  | text
  | blob
  deriving Repr, DecidableEq

def CellType.name : CellType → String
  | null => "Null"
  | integer => "Integer"
  | real => "Real"
  | text => "Text"
  | blob => "Blob"

/-- Where a cell stands in the answer to a query: its column's number from zero, and its name. -/
structure AnswerColumn where
  index : Nat
  name : String
  deriving Repr, DecidableEq

inductive StoreError
  | noSuchTable (table : String)
  | noSuchColumn (column : String)
  | wrongCount (table : String) (columns values : Nat)
  | wrongType (found : CellType) (column : AnswerColumn)
  | outOfRange (value : Int) (index : Nat)
  | notUtf8 (column : AnswerColumn) (flaw : Text.Flaw)
  | notUnique (columns : List String)
  | isNull (column : String)
  | brokenReference
  | notAnId
  | locked
  | full
  | tooManyVariables
  | cannotOpen (path : String)
  | cannotOpenJournal
  | nameOfIndex (name : String)
  | nameOfTable (name : String)
  | viewNotIndexed
  | virtualTableNotIndexed
  | noSuchSavepoint (name : String)
  | refused (message : String)
  deriving Repr, DecidableEq

def maxVariables : Nat := 32766

def StoreError.message : StoreError → String
  | noSuchTable table => "no such table: " ++ table
  | noSuchColumn column => "no such column: " ++ column
  | wrongCount table columns values =>
    "table " ++ table ++ " has " ++ toString columns ++ " columns but " ++ toString values ++
      " values were supplied"
  | wrongType found column =>
    "Invalid column type " ++ found.name ++ " at index: " ++ toString column.index ++ ", name: " ++
      column.name
  | outOfRange value index =>
    "Integer " ++ toString value ++ " out of range at index " ++ toString index
  | notUtf8 column flaw =>
    "Conversion error from type " ++ CellType.text.name ++ " at index: " ++
      toString column.index ++ ", " ++ flaw.message
  | notUnique columns => "UNIQUE constraint failed: " ++ String.intercalate ", " columns
  | isNull column => "NOT NULL constraint failed: " ++ column
  | brokenReference => "FOREIGN KEY constraint failed"
  | notAnId => "datatype mismatch"
  | locked => "database is locked"
  | full => "database or disk is full"
  | tooManyVariables =>
    "variable number must be between ?1 and ?" ++ toString maxVariables
  | cannotOpen path => "unable to open database file: " ++ path
  | cannotOpenJournal => "unable to open database file"
  | nameOfIndex name => "there is already an index named " ++ name
  | nameOfTable name => "there is already a table named " ++ name
  | viewNotIndexed => "views may not be indexed"
  | virtualTableNotIndexed => "virtual tables may not be indexed"
  | noSuchSavepoint name => "no such savepoint: " ++ name
  | refused message => message

end FreshIndex.Store
