import FreshIndex.Symbol.Basic
import FreshIndex.Timestamp

/-!
This module contains the occurrences of symbols in source files and their order, by which one of
several definitions is chosen as the primary one.
-/

namespace FreshIndex

/-- Where a symbol occurs, and when the indexer saw the file. -/
structure Location where
  path : String
  line : UInt32
  column : UInt32
  isSystem : Bool
  timestamp : Timestamp
  deriving Repr, DecidableEq

namespace Location

instance : Ord Location where
  compare :=
    compareLex (compareOn fun l => Text.octets l.path)
      (compareLex (compareOn Location.line)
        (compareLex (compareOn Location.column)
          (compareLex (compareOn Location.isSystem) (compareOn Location.timestamp))))

end Location

structure Occurrence where
  location : Location
  roles : Roles
  symbol : Symbol
  relations : List Relation
  deriving Repr, DecidableEq

namespace Occurrence

/-- Occurrences are ordered by location, roles, symbol and relations. -/
instance : Ord Occurrence where
  compare :=
    compareLex (compareOn Occurrence.location)
      (compareLex (compareOn Occurrence.roles)
        (compareLex (compareOn Occurrence.symbol) (compareOn Occurrence.relations)))

def relationsIn (o : Occurrence) (roles : Roles) : List Relation :=
  o.relations.filter (·.roles.intersects roles)

end Occurrence

/-- The items of a list in ascending order; equal items keep their places. -/
def sorted {α : Type} [Ord α] (items : List α) : List α :=
  items.mergeSort fun a b => (compare a b).isLE

/-- The first least item of a list. -/
def least? {α : Type} [Ord α] : List α → Option α
  | [] => none
  | a :: rest => some (rest.foldl (fun best b => if (compare best b).isLE then best else b) a)

end FreshIndex
