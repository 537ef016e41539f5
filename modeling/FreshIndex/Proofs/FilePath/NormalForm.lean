import FreshIndex.Proofs.FileTree.Path

/-!
This module contains the proof that the normal form of a path says whether the path starts at the
root, and its names, and nothing else.
-/

namespace FreshIndex

open Text

namespace FilePath

variable {p q : FilePath} {name : Octets} {names : List Octets}

theorem mem_names (h : name ∈ p.names) : slash ∉ name ∧ isIdle name = false := by
  obtain ⟨hmem, hidle⟩ := List.mem_filter.mp h
  exact ⟨notMem_of_mem_splitOn hmem, (Bool.not_eq_true' _).mp hidle⟩

theorem intercalate_cons_eq_flatMap {α : Type} {x : α} (name : List α) (names : List (List α)) :
    [x].intercalate (name :: names) = name ++ names.flatMap (x :: ·) := by
  induction names generalizing name with
  | nil => simp
  | cons next rest ih =>
    rw [List.intercalate_cons_cons, ih, List.flatMap_cons, List.append_assoc]
    rfl

theorem names_cons_slash (bs : Octets) : FilePath.names ⟨slash :: bs⟩ = FilePath.names ⟨bs⟩ := by
  have hsplit := List.splitOn_append_cons_self (a := slash) [] bs
  rw [List.nil_append, List.splitOn_nil, List.singleton_append] at hsplit
  unfold FilePath.names
  rw [hsplit]
  rfl

theorem names_intercalate (h : ∀ name ∈ names, slash ∉ name) :
    FilePath.names ⟨[slash].intercalate names⟩ = names.filter (!isIdle ·) := by
  unfold FilePath.names
  cases names with
  | nil => rfl
  | cons first rest => rw [List.splitOn_intercalate slash h (List.cons_ne_nil first rest)]

theorem names_ofNames (isAbsolute : Bool)
    (h : ∀ name ∈ names, slash ∉ name ∧ isIdle name = false) :
    (ofNames isAbsolute names).names = names := by
  have hnames : FilePath.names ⟨[slash].intercalate names⟩ = names := by
    rw [names_intercalate fun name hname => (h name hname).1, List.filter_eq_self]
    intro name hname
    rw [(h name hname).2]
    rfl
  unfold ofNames
  cases isAbsolute with
  | false => exact hnames
  | true =>
    change FilePath.names ⟨slash :: [slash].intercalate names⟩ = names
    rw [names_cons_slash, hnames]

theorem isAbsolute_ofNames (isAbsolute : Bool)
    (h : ∀ name ∈ names, slash ∉ name ∧ isIdle name = false) :
    (ofNames isAbsolute names).isAbsolute = isAbsolute := by
  unfold ofNames
  cases isAbsolute with
  | true => rfl
  | false =>
    cases names with
    | nil => rfl
    | cons first rest =>
      obtain ⟨hslash, hidle⟩ := h first List.mem_cons_self
      cases rest with
      | nil =>
        change FilePath.isAbsolute ⟨[slash].intercalate [first]⟩ = false
        rw [List.intercalate_singleton]
        exact isAbsolute_singleton hslash
      | cons next rest =>
        change FilePath.isAbsolute ⟨[slash].intercalate (first :: next :: rest)⟩ = false
        rw [isAbsolute_intercalate hslash]
        exact (Bool.or_eq_false_iff.mp hidle).1

theorem names_normalize (p : FilePath) : p.normalize.names = p.names :=
  names_ofNames p.isAbsolute fun _ => mem_names

theorem isAbsolute_normalize (p : FilePath) : p.normalize.isAbsolute = p.isAbsolute :=
  isAbsolute_ofNames p.isAbsolute fun _ => mem_names

theorem normalize_eq_iff :
    p.normalize = q.normalize ↔ p.isAbsolute = q.isAbsolute ∧ p.names = q.names := by
  constructor
  . intro h
    rw [← isAbsolute_normalize, ← names_normalize, h, isAbsolute_normalize, names_normalize]
    exact ⟨rfl, rfl⟩
  . rintro ⟨habsolute, hnames⟩
    unfold normalize
    rw [habsolute, hnames]

end FilePath

end FreshIndex
