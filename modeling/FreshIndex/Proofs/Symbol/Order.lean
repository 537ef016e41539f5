import FreshIndex.Symbol.Occurrence

/-!
This module contains the proof that relations and occurrences are totally ordered, with nothing
equal to anything else, and that the first item of a sorted list is its least one. So neither the
least item of a list nor the sorted list depends on the order in which the items stand.
-/

namespace FreshIndex

open Std

instance : TransOrd SymbolKind :=
  inferInstanceAs <| TransCmp (compareOn SymbolKind.ctorIdx)

instance : TransOrd Symbol :=
  inferInstanceAs <| TransCmp (compareLex _ (compareLex _ _))

instance : TransOrd Roles :=
  inferInstanceAs <| TransCmp (compareOn Roles.bits)

instance : TransOrd Relation :=
  inferInstanceAs <| TransCmp (compareLex _ _)

instance : TransOrd Timestamp :=
  inferInstanceAs <| TransCmp (compareOn Timestamp.nanoseconds)

instance : TransOrd Location :=
  inferInstanceAs <| TransCmp (compareLex _ (compareLex _ (compareLex _ (compareLex _ _))))

instance : TransOrd Occurrence :=
  inferInstanceAs <| TransCmp (compareLex _ (compareLex _ (compareLex _ _)))

theorem compareOn_eq_eq {α β : Type} [Ord β] [LawfulEqOrd β] {f : α → β} {a b : α} :
    compareOn f a b = .eq ↔ f a = f b :=
  LawfulEqOrd.compare_eq_iff_eq

theorem compareOn_octets_eq_eq {α : Type} {f : α → String} {a b : α} :
    compareOn (fun x => Text.octets (f x)) a b = .eq ↔ f a = f b := by
  rw [compareOn_eq_eq, Text.octets_inj]

instance : LawfulEqOrd SymbolKind where
  eq_of_compare {a b} h := by
    have hsame : a.ctorIdx = b.ctorIdx := compareOn_eq_eq.mp h
    rw [← SymbolKind.ofNat_ctorIdx a, hsame, SymbolKind.ofNat_ctorIdx]

instance : LawfulEqOrd Symbol where
  eq_of_compare {a b} h := by
    obtain ⟨husr, h⟩ := compareLex_eq_eq.mp h
    obtain ⟨hname, hkind⟩ := compareLex_eq_eq.mp h
    rw [compareOn_octets_eq_eq] at husr hname
    rw [compareOn_eq_eq] at hkind
    cases a
    cases b
    rw [Symbol.mk.injEq]
    exact ⟨husr, hname, hkind⟩

instance : LawfulEqOrd Roles where
  eq_of_compare {a b} h := by
    cases a
    cases b
    rw [Roles.mk.injEq]
    exact compareOn_eq_eq.mp h

instance : LawfulEqOrd Relation where
  eq_of_compare {a b} h := by
    obtain ⟨hsymbol, hroles⟩ := compareLex_eq_eq.mp h
    rw [compareOn_eq_eq] at hsymbol hroles
    cases a
    cases b
    rw [Relation.mk.injEq]
    exact ⟨hsymbol, hroles⟩

instance : LawfulEqOrd Timestamp where
  eq_of_compare h := Timestamp.ext (compareOn_eq_eq.mp h)

instance : LawfulEqOrd Location where
  eq_of_compare {a b} h := by
    obtain ⟨hpath, h⟩ := compareLex_eq_eq.mp h
    obtain ⟨hline, h⟩ := compareLex_eq_eq.mp h
    obtain ⟨hcolumn, h⟩ := compareLex_eq_eq.mp h
    obtain ⟨hsystem, htimestamp⟩ := compareLex_eq_eq.mp h
    rw [compareOn_octets_eq_eq] at hpath
    rw [compareOn_eq_eq] at hline hcolumn hsystem htimestamp
    cases a
    cases b
    rw [Location.mk.injEq]
    exact ⟨hpath, hline, hcolumn, hsystem, htimestamp⟩

instance : LawfulEqOrd Occurrence where
  eq_of_compare {a b} h := by
    obtain ⟨hlocation, h⟩ := compareLex_eq_eq.mp h
    obtain ⟨hroles, h⟩ := compareLex_eq_eq.mp h
    obtain ⟨hsymbol, hrelations⟩ := compareLex_eq_eq.mp h
    rw [compareOn_eq_eq] at hlocation hroles hsymbol hrelations
    cases a
    cases b
    rw [Occurrence.mk.injEq]
    exact ⟨hlocation, hroles, hsymbol, hrelations⟩

theorem mem_of_least? {α : Type} [Ord α] {items : List α} {a : α} (h : least? items = some a) :
    a ∈ items := by
  cases items with
  | nil => cases h
  | cons b rest =>
    cases h
    induction rest generalizing b with
    | nil => exact List.mem_cons_self
    | cons c rest ih =>
      rw [List.foldl_cons]
      split
      . exact List.mem_cons.mpr ((List.mem_cons.mp (ih b)).imp_right (List.mem_cons_of_mem c))
      . exact List.mem_cons_of_mem b (ih c)

theorem least?_eq_none_iff {α : Type} [Ord α] {items : List α} :
    least? items = none ↔ items = [] := by
  cases items with
  | nil => exact iff_of_true rfl rfl
  | cons a rest => exact iff_of_false nofun nofun

theorem perm_sorted {α : Type} [Ord α] (items : List α) : (sorted items).Perm items :=
  List.mergeSort_perm _ _

section Least

variable {α : Type} [Ord α] [TransOrd α]

theorem isLE_of_not_isLE {a b : α} (h : ¬ (compare a b).isLE) : (compare b a).isLE := by
  rw [OrientedCmp.lt_of_not_isLE h]
  rfl

instance associative_least :
    Associative fun best b : α => if (compare best b).isLE then best else b where
  assoc a b c := by
    by_cases hab : (compare a b).isLE
    . by_cases hbc : (compare b c).isLE
      . have hac := TransCmp.isLE_trans hab hbc
        simp only [hab, hbc, hac, if_true]
      . rw [if_pos hab, if_neg hbc]
    . by_cases hbc : (compare b c).isLE
      . rw [if_neg hab, if_pos hbc, if_neg hab]
      . have hac : ¬ (compare a c).isLE := by
          intro hac
          exact hab (TransCmp.isLE_trans hac (isLE_of_not_isLE hbc))
        rw [if_neg hab, if_neg hbc, if_neg hac]

theorem least?_cons (a : α) (rest : List α) :
    least? (a :: rest)
      =
    match least? rest with
    | none => some a
    | some b => if (compare a b).isLE then some a else some b := by
  cases rest with
  | nil => rfl
  | cons b rest =>
    have hassoc := @List.foldl_assoc α
      (fun best b => if (compare best b).isLE then best else b) inferInstance rest a b
    dsimp only [least?, List.foldl_cons] at hassoc ⊢
    rw [hassoc]
    split
    . rfl
    . rfl

theorem isLE_of_least? {items : List α} {a b : α} (h : least? items = some a) (hb : b ∈ items) :
    (compare a b).isLE := by
  induction items generalizing a with
  | nil => cases hb
  | cons c rest ih =>
    rw [least?_cons] at h
    cases hrest : least? rest with
    | none =>
      rw [hrest] at h
      cases h
      rw [least?_eq_none_iff.mp hrest, List.mem_singleton] at hb
      rw [hb]
      exact ReflCmp.isLE_rfl
    | some d =>
      rw [hrest] at h
      dsimp only at h
      split at h
      . next hcd =>
        cases h
        rcases List.mem_cons.mp hb with rfl | hb
        . exact ReflCmp.isLE_rfl
        . exact TransCmp.isLE_trans hcd (ih hrest hb)
      . next hcd =>
        cases h
        rcases List.mem_cons.mp hb with rfl | hb
        . exact isLE_of_not_isLE hcd
        . exact ih hrest hb

theorem isLE_total (a b : α) : ((compare a b).isLE || (compare b a).isLE) = true := by
  rw [Bool.or_eq_true]
  by_cases hab : (compare a b).isLE
  . exact .inl hab
  . exact .inr (isLE_of_not_isLE hab)

theorem pairwise_sorted (items : List α) :
    (sorted items).Pairwise fun a b => (compare a b).isLE := by
  unfold sorted
  apply List.pairwise_mergeSort
  . intro a b c
    exact TransCmp.isLE_trans
  . exact isLE_total

/-- Sorting and then taking the first that fits gives the least that fits. -/
theorem find?_sorted (p : α → Bool) (items : List α) :
    (sorted items).find? p = least? (items.filter p) := by
  induction items with
  | nil => simp [sorted, least?]
  | cons a rest ih =>
    have hsorted := pairwise_sorted (a :: rest)
    unfold sorted at hsorted ih ⊢
    obtain ⟨before, after, hcons, hrest, hbefore⟩ :=
      List.mergeSort_cons (fun a b c => TransCmp.isLE_trans) isLE_total a rest
    rw [hcons] at hsorted ⊢
    rw [hrest] at ih
    rw [List.find?_append] at ih ⊢
    rw [List.find?_cons, List.filter_cons]
    cases ha : p a with
    | false => exact ih
    | true =>
      simp only [if_true]
      rw [least?_cons, ← ih]
      cases hfound : before.find? p with
      | some b =>
        have hab := hbefore b (List.mem_of_find?_eq_some hfound)
        simp only [Bool.not_eq_true'] at hab
        simp only [Option.some_or, hab, Bool.false_eq_true, if_false]
      | none =>
        cases hlater : after.find? p with
        | none => rfl
        | some b =>
          have hb := List.mem_of_find?_eq_some hlater
          have hab : (compare a b).isLE :=
            (List.pairwise_cons.mp (List.pairwise_append.mp hsorted).2.1).1 b hb
          simp only [Option.none_or, hab, if_true]

theorem head?_sorted (items : List α) : (sorted items).head? = least? items := by
  have h := find?_sorted (fun _ => true) items
  rw [List.filter_eq_self.mpr fun _ _ => rfl] at h
  cases hitems : sorted items with
  | nil =>
    rw [hitems] at h
    exact h
  | cons a rest =>
    rw [hitems] at h
    exact h

section Lawful

variable [LawfulEqOrd α] {items items' : List α}

theorem eq_of_isLE {a b : α} (hab : (compare a b).isLE) (hba : (compare b a).isLE) : a = b :=
  LawfulEqOrd.eq_of_compare (OrientedCmp.isLE_antisymm hab hba)

theorem least?_eq_some_iff {a : α} :
    least? items = some a ↔ a ∈ items ∧ ∀ b ∈ items, (compare a b).isLE := by
  constructor
  . intro h
    exact ⟨mem_of_least? h, fun b => isLE_of_least? h⟩
  . rintro ⟨ha, hleast⟩
    cases hitems : least? items with
    | none =>
      rw [least?_eq_none_iff.mp hitems] at ha
      cases ha
    | some b =>
      rw [eq_of_isLE (hleast b (mem_of_least? hitems)) (isLE_of_least? hitems ha)]

theorem least?_of_perm (h : items.Perm items') : least? items = least? items' := by
  apply Option.ext
  intro a
  rw [least?_eq_some_iff, least?_eq_some_iff, h.mem_iff]
  simp only [h.mem_iff]

/-- No other order of a list's items is ascending than that of the sorted list. -/
theorem sorted_eq_iff :
    sorted items = items' ↔
      items'.Perm items ∧ items'.Pairwise fun a b => (compare a b).isLE := by
  constructor
  . rintro rfl
    exact ⟨perm_sorted items, pairwise_sorted items⟩
  . rintro ⟨hperm, hascending⟩
    apply List.Perm.eq_of_pairwise _ (pairwise_sorted items) hascending
    . exact (perm_sorted items).trans hperm.symm
    . intro a b _ _
      exact eq_of_isLE

theorem sorted_of_perm (h : items.Perm items') : sorted items = sorted items' :=
  sorted_eq_iff.mpr ⟨(perm_sorted items').trans h.symm, pairwise_sorted items'⟩

end Lawful

end Least

end FreshIndex
