/-!
This module contains the removal of repeated items from a list.
-/

namespace FreshIndex

/-- The items of a list whose keys no earlier item has. -/
def firstByKey {α κ : Type} [DecidableEq κ] (key : α → κ) : (items : List α) → List α
  | [] => []
  | a :: rest => a :: (firstByKey key rest).filter fun b => key b ≠ key a

theorem mem_of_mem_firstByKey {α κ : Type} [DecidableEq κ] {key : α → κ} {items : List α} {a : α}
    (h : a ∈ firstByKey key items) : a ∈ items := by
  induction items with
  | nil => simp [firstByKey] at h
  | cons b rest ih =>
    simp only [firstByKey, List.mem_cons, List.mem_filter] at h ⊢
    exact h.imp_right fun h => ih h.1

variable {α β κ ι : Type} [DecidableEq κ] [DecidableEq ι] {key : α → κ} {items : List α}

theorem exists_mem_firstByKey {a : α} (h : a ∈ items) :
    ∃ b ∈ firstByKey key items, key b = key a := by
  induction items with
  | nil => cases h
  | cons b rest ih =>
    by_cases hsame : key b = key a
    . exact ⟨b, List.mem_cons_self, hsame⟩
    . have hrest : a ∈ rest := by
        apply List.mem_of_ne_of_mem _ h
        intro hab
        exact hsame (congrArg key hab.symm)
      obtain ⟨b', hmem, hkey⟩ := ih hrest
      refine ⟨b', List.mem_cons_of_mem _ (List.mem_filter.mpr ⟨hmem, ?_⟩), hkey⟩
      rw [decide_eq_true_iff, hkey]
      exact Ne.symm hsame

theorem firstByKey_eq_nil_iff : firstByKey key items = [] ↔ items = [] := by
  cases items with
  | nil => exact ⟨fun _ => rfl, fun _ => rfl⟩
  | cons a rest => simp [firstByKey]

theorem nodup_firstByKey : ((firstByKey key items).map key).Nodup := by
  induction items with
  | nil => exact .nil
  | cons a rest ih =>
    rw [firstByKey, List.map_cons, List.nodup_cons]
    constructor
    . simp
    . exact ih.sublist (List.filter_sublist.map key)

/-- What is kept of a list in order stands before every item with the key of a later one. -/
theorem pairwise_firstByKey {R : α → α → Prop} (h : items.Pairwise R) :
    (firstByKey key items).Pairwise fun a b => ∀ b' ∈ items, key b' = key b → R a b' := by
  induction items with
  | nil => exact .nil
  | cons c rest ih =>
    rw [List.pairwise_cons] at h
    have hlater {b b' : α} (hkey : decide (key b ≠ key c) = true) (hmem : b' ∈ c :: rest)
        (hsame : key b' = key b) : b' ∈ rest := by
      apply List.mem_of_ne_of_mem _ hmem
      intro heq
      subst heq
      exact of_decide_eq_true hkey hsame.symm
    rw [firstByKey, List.pairwise_cons, List.pairwise_filter]
    constructor
    . intro b hb b' hb' hsame
      exact h.1 b' (hlater (List.mem_filter.mp hb).2 hb' hsame)
    . apply (ih h.2).imp
      intro a b hab _ hkey b' hb' hsame
      exact hab b' (hlater hkey hb' hsame) hsame

theorem firstByKey_map (f : β → α) (bs : List β) :
    firstByKey key (bs.map f) = (firstByKey (key <| f ·) bs).map f := by
  induction bs with
  | nil => rfl
  | cons b rest ih =>
    rw [List.map_cons, firstByKey, firstByKey, ih, List.filter_map, List.map_cons]
    rfl

theorem firstByKey_congr {key' : α → ι} (h : ∀ a b, key a = key b ↔ key' a = key' b) :
    firstByKey key items = firstByKey key' items := by
  induction items with
  | nil => rfl
  | cons a rest ih =>
    rw [firstByKey, firstByKey, ih]
    apply congrArg
    apply List.filter_congr
    intro b _
    rw [decide_eq_decide, Ne, Ne, h]

theorem mem_firstByKey_id [DecidableEq α] {a : α} : a ∈ firstByKey id items ↔ a ∈ items := by
  constructor
  . exact mem_of_mem_firstByKey
  . intro h
    obtain ⟨b, hb, hsame⟩ : ∃ b ∈ firstByKey id items, id b = id a := exists_mem_firstByKey h
    rw [← id_eq a, ← hsame]
    exact hb

theorem nodup_firstByKey_id [DecidableEq α] : (firstByKey id items).Nodup := by
  rw [← List.map_id (firstByKey id items)]
  exact nodup_firstByKey

end FreshIndex
