import FreshIndex.Symbol.Kind
import FreshIndex.Symbol.Roles
import FreshIndex.Text.Utf8

/-!
This module contains symbols and the relations between them, with their orders. Texts are ordered by
their octets.
-/

namespace FreshIndex

/-- A symbol of a program. Its `usr` is the same wherever the symbol occurs. -/
structure Symbol where
  usr : String
  name : String
  kind : SymbolKind
  deriving Repr, DecidableEq

namespace Symbol

/-- Symbols are ordered by `usr`, then name, then kind. -/
instance : Ord Symbol where
  compare :=
    compareLex (compareOn fun s => Text.octets s.usr)
      (compareLex (compareOn fun s => Text.octets s.name) (compareOn Symbol.kind))

end Symbol

structure Relation where
  symbol : Symbol
  roles : Roles
  deriving Repr, DecidableEq

namespace Relation

instance : Ord Relation where
  compare := compareLex (compareOn Relation.symbol) (compareOn Relation.roles)

end Relation

end FreshIndex
