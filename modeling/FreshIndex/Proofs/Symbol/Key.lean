import Mathlib.Data.List.Lex
import Mathlib.Data.Prod.Lex
import FreshIndex.Proofs.Symbol.Order

/-!
This module contains the keys of symbols, relations, locations and occurrences, in which stand the
things by which they are compared, the first one first. The order of occurrences is the
lexicographic order of their keys, and it is a linear one.
-/

namespace FreshIndex

open Std

/-- A comparison tells of two items which of their keys is less. -/
structure ComparesBy {α κ : Type} [LT κ] (comparison : α → α → Ordering) (key : α → κ) : Prop where
  lt_iff {a b : α} : comparison a b = .lt ↔ key a < key b
  eq_iff {a b : α} : comparison a b = .eq ↔ key a = key b

namespace ComparesBy

variable {α β κ ν : Type} [LT κ] [LT ν] {comparison comparison' : α → α → Ordering}
  {key : α → κ} {key' : α → ν}

theorem self [Ord α] [LT α] [LE α] [LawfulOrderOrd α] [LawfulOrderLT α] [LawfulEqOrd α] :
    ComparesBy (compare : α → α → Ordering) id where
  lt_iff := compare_eq_lt
  eq_iff := LawfulEqOrd.compare_eq_iff_eq

theorem on [Ord α] (h : ComparesBy (compare : α → α → Ordering) key) (f : β → α) :
    ComparesBy (compareOn f) fun b => key (f b) where
  lt_iff := h.lt_iff
  eq_iff := h.eq_iff

/-- What is compared first stands first in the key. -/
theorem lex (h : ComparesBy comparison key) (h' : ComparesBy comparison' key') :
    ComparesBy (compareLex comparison comparison') fun a => toLex (key a, key' a) where
  lt_iff {a b} := by
    rw [compareLex, Ordering.then_eq_lt, h.lt_iff, h.eq_iff, h'.lt_iff, Prod.Lex.toLex_lt_toLex]
  eq_iff {a b} := by
    rw [compareLex_eq_eq, h.eq_iff, h'.eq_iff, toLex_inj, Prod.mk.injEq]

/-- Lists are compared item by item, and a list comes before what it is continued to. -/
theorem list [Ord α] (h : ComparesBy (compare : α → α → Ordering) key) :
    ComparesBy (compare : List α → List α → Ordering) (List.map key) where
  lt_iff {as bs} := by
    induction as generalizing bs with
    | nil =>
      cases bs with
      | nil => exact iff_of_false nofun nofun
      | cons b bs => exact iff_of_true List.compare_nil_cons (List.nil_lt_cons _ _)
    | cons a as ih =>
      cases bs with
      | nil => exact iff_of_false nofun nofun
      | cons b bs =>
        rw [List.compare_cons_cons, Ordering.then_eq_lt, h.lt_iff, h.eq_iff, ih, List.map_cons,
          List.map_cons, List.cons_lt_cons_iff]
  eq_iff {as bs} := by
    induction as generalizing bs with
    | nil =>
      cases bs with
      | nil => exact iff_of_true rfl rfl
      | cons b bs => exact iff_of_false nofun nofun
    | cons a as ih =>
      cases bs with
      | nil => exact iff_of_false nofun nofun
      | cons b bs =>
        rw [List.compare_cons_cons, Ordering.then_eq_eq, h.eq_iff, ih, List.map_cons,
          List.map_cons, List.cons.injEq]

theorem octets {f : β → String} :
    ComparesBy (compareOn fun b => Text.octets (f b)) fun b => Text.octets (f b) := by
  have h := (list (self (α := UInt8))).on fun b => Text.octets (f b)
  simp only [List.map_id] at h
  exact h

end ComparesBy

/-! ### Keys -/

namespace Symbol

/-- The octets of `usr` and of the name, and the place of the kind among all kinds. -/
abbrev Key := Text.Octets ×ₗ Text.Octets ×ₗ Nat

def key (s : Symbol) : Key :=
  toLex (Text.octets s.usr, toLex (Text.octets s.name, SymbolKind.all.idxOf s.kind))

end Symbol

namespace Relation

abbrev Key := Symbol.Key ×ₗ UInt64

def key (r : Relation) : Key :=
  toLex (r.symbol.key, r.roles.bits)

end Relation

namespace Location

abbrev Key := Text.Octets ×ₗ UInt32 ×ₗ UInt32 ×ₗ Bool ×ₗ Int

def key (l : Location) : Key :=
  toLex (Text.octets l.path, toLex (l.line, toLex (l.column,
    toLex (l.isSystem, l.timestamp.nanoseconds))))

end Location

namespace Occurrence

abbrev Key := Location.Key ×ₗ UInt64 ×ₗ Symbol.Key ×ₗ List Relation.Key

def key (o : Occurrence) : Key :=
  toLex (o.location.key, toLex (o.roles.bits, toLex (o.symbol.key, o.relations.map Relation.key)))

end Occurrence

theorem SymbolKind.ctorIdx_eq (kind : SymbolKind) : kind.ctorIdx = all.idxOf kind := by
  cases kind <;> decide

theorem SymbolKind.comparesBy_place :
    ComparesBy (compare : SymbolKind → SymbolKind → Ordering) all.idxOf := by
  have h := ComparesBy.self.on SymbolKind.ctorIdx
  simp only [SymbolKind.ctorIdx_eq] at h
  exact h

theorem comparesBy_isSystem :
    ComparesBy (compare : Bool → Bool → Ordering) id where
  lt_iff {a b} := by
    cases a <;> cases b <;> decide
  eq_iff := LawfulEqOrd.compare_eq_iff_eq

theorem Roles.comparesBy_bits : ComparesBy (compare : Roles → Roles → Ordering) Roles.bits :=
  ComparesBy.self.on Roles.bits

theorem Symbol.comparesBy_key : ComparesBy (compare : Symbol → Symbol → Ordering) Symbol.key :=
  .lex .octets (.lex .octets (SymbolKind.comparesBy_place.on Symbol.kind))

theorem Relation.comparesBy_key :
    ComparesBy (compare : Relation → Relation → Ordering) Relation.key :=
  .lex (Symbol.comparesBy_key.on Relation.symbol) (Roles.comparesBy_bits.on Relation.roles)

theorem Timestamp.comparesBy_nanoseconds :
    ComparesBy (compare : Timestamp → Timestamp → Ordering) Timestamp.nanoseconds :=
  ComparesBy.self.on Timestamp.nanoseconds

theorem Location.comparesBy_key :
    ComparesBy (compare : Location → Location → Ordering) Location.key :=
  .lex .octets (.lex (ComparesBy.self.on Location.line) (.lex (ComparesBy.self.on Location.column)
    (.lex (comparesBy_isSystem.on Location.isSystem)
      (Timestamp.comparesBy_nanoseconds.on Location.timestamp))))

namespace Occurrence

theorem comparesBy_key : ComparesBy (compare : Occurrence → Occurrence → Ordering) key :=
  .lex (Location.comparesBy_key.on Occurrence.location)
    (.lex (Roles.comparesBy_bits.on Occurrence.roles)
      (.lex (Symbol.comparesBy_key.on Occurrence.symbol)
        (Relation.comparesBy_key.list.on Occurrence.relations)))

/--
Of two occurrences one comes first, unless they are the same. Which one is told by the first thing
in their keys that is not the same. So the items of a list have one ascending order, whatever the
order they stand in.
-/
theorem order_isLinear :
    (∀ a b : Occurrence, (compare a b).isLE ∨ (compare b a).isLE) ∧
    (∀ a b c : Occurrence, (compare a b).isLE → (compare b c).isLE → (compare a c).isLE) ∧
    (∀ a b : Occurrence, (compare a b).isLE → (compare b a).isLE → a = b) ∧
    (∀ a b : Occurrence, compare b a = (compare a b).swap) ∧
    (∀ a b : Occurrence, compare a b = .eq ↔ a = b) ∧
    (∀ a b : Occurrence, compare a b = .lt ↔ a.key < b.key) ∧
    (∀ items items' : List Occurrence, sorted items = items' ↔
      items'.Perm items ∧ items'.Pairwise fun a b => (compare a b).isLE) ∧
    ∀ items items' : List Occurrence, items.Perm items' → sorted items = sorted items' := by
  refine ⟨?_, ?_, ?_, ?_, ?_, ?_, ?_, ?_⟩
  . intro a b
    exact Bool.or_eq_true_iff.mp (isLE_total a b)
  . intro a b c
    exact TransCmp.isLE_trans
  . intro a b
    exact eq_of_isLE
  . intro a b
    exact OrientedCmp.eq_swap
  . intro a b
    exact LawfulEqOrd.compare_eq_iff_eq
  . intro a b
    exact comparesBy_key.lt_iff
  . intro items items'
    exact sorted_eq_iff
  . intro items items'
    exact sorted_of_perm

end Occurrence

end FreshIndex
