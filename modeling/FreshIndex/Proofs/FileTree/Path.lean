import FreshIndex.FileTree.Basic

/-!
This module contains what the parts of a path are if the path is put together of others: the
directory that a path is in, and a path that starts there.
-/

namespace FreshIndex

open Text

section Intercalate

variable {α : Type} {c x : α}

theorem mem_or_of_mem_intercalate {parts : List (List α)} (h : c ∈ [x].intercalate parts) :
    c = x ∨ ∃ part ∈ parts, c ∈ part := by
  induction parts with
  | nil => cases h
  | cons head rest ih =>
    cases rest with
    | nil =>
      rw [List.intercalate_singleton] at h
      exact .inr ⟨head, List.mem_cons_self, h⟩
    | cons next rest =>
      rw [List.intercalate_cons_cons, List.mem_append, List.mem_append, List.mem_singleton] at h
      rcases h with (h | h) | h
      . exact .inr ⟨head, List.mem_cons_self, h⟩
      . exact .inl h
      . rcases ih h with hx | ⟨part, hpart, hc⟩
        . exact .inl hx
        . exact .inr ⟨part, List.mem_cons_of_mem _ hpart, hc⟩

theorem mem_intercalate_of_mem {parts : List (List α)} {part : List α} (h : part ∈ parts)
    (hc : c ∈ part) : c ∈ [x].intercalate parts := by
  induction parts with
  | nil => cases h
  | cons head rest ih =>
    cases rest with
    | nil =>
      rw [List.mem_singleton] at h
      rw [List.intercalate_singleton, ← h]
      exact hc
    | cons next rest =>
      rw [List.intercalate_cons_cons, List.mem_append, List.mem_append]
      rcases List.mem_cons.mp h with rfl | h
      . exact .inl (.inl hc)
      . exact .inr (ih h)

theorem notMem_of_mem_splitOn [BEq α] [LawfulBEq α] {xs part : List α} (h : part ∈ xs.splitOn x) :
    x ∉ part := by
  induction xs generalizing part with
  | nil =>
    rw [List.splitOn_nil, List.mem_singleton] at h
    rw [h]
    exact List.not_mem_nil
  | cons y rest ih =>
    rw [List.splitOn_cons_eq_if_modifyHead] at h
    by_cases hy : y = x
    . rw [if_pos (by simp [hy])] at h
      rcases List.mem_cons.mp h with rfl | h
      . exact List.not_mem_nil
      . exact ih h
    . obtain ⟨head, tail, hrest⟩ := List.exists_cons_of_ne_nil (List.splitOn_ne_nil x rest)
      rw [if_neg (by simp [hy]), hrest, List.modifyHead_cons] at h
      rcases List.mem_cons.mp h with rfl | h
      . rw [List.mem_cons, not_or]
        refine ⟨Ne.symm hy, ih ?_⟩
        rw [hrest]
        exact List.mem_cons_self
      . apply ih
        rw [hrest]
        exact List.mem_cons_of_mem _ h

end Intercalate

namespace FilePath

variable {p q d : FilePath} {c : UInt8} {bs cs segment last : Octets} {init : List Octets}

theorem splitOn_concat (bs : Octets) (hc : c ≠ slash) :
    ∃ before last, (bs ++ [c]).splitOn slash = before ++ [last] ∧ last ≠ [] := by
  induction bs with
  | nil =>
    refine ⟨[], [c], ?_, List.cons_ne_nil _ _⟩
    apply List.splitOn_eq_singleton
    simp [Ne.symm hc]
  | cons b rest ih =>
    obtain ⟨before, last, hsplit, hlast⟩ := ih
    rw [List.cons_append, List.splitOn_cons_eq_if_modifyHead, hsplit]
    by_cases hb : b = slash
    . rw [if_pos (by simp [hb])]
      exact ⟨[] :: before, last, rfl, hlast⟩
    . rw [if_neg (by simp [hb])]
      cases before with
      | nil => exact ⟨[], b :: last, rfl, List.cons_ne_nil _ _⟩
      | cons head before => exact ⟨(b :: head) :: before, last, rfl, hlast⟩

/-- What stands between the slashes of a path, if anything does. -/
def segments (p : FilePath) : List Octets :=
  (p.octets.splitOn slash).filter (!·.isEmpty)

theorem segments_append_slash : segments ⟨bs ++ slash :: cs⟩ = segments ⟨bs⟩ ++ segments ⟨cs⟩ := by
  unfold segments
  rw [List.splitOn_append_cons_self, List.filter_append]

theorem segments_concat_slash : segments ⟨bs ++ [slash]⟩ = segments ⟨bs⟩ := by
  rw [segments_append_slash]
  exact List.append_nil _

theorem join_eq (hq : q.isAbsolute = false) :
    (p.octets = [] ∧ p.join q = q) ∨
      ∃ bs, p.join q = ⟨bs ++ slash :: q.octets⟩ ∧ segments ⟨bs⟩ = p.segments := by
  rcases p with ⟨octets⟩
  unfold join
  rw [if_neg (by simp [hq])]
  rcases List.eq_nil_or_concat octets with rfl | ⟨bs, c, rfl⟩
  . exact .inl ⟨rfl, rfl⟩
  . rw [List.concat_eq_append]
    right
    by_cases hc : c = slash
    . rw [if_pos (by simp [hc]), hc, segments_concat_slash]
      exact ⟨bs, by simp, rfl⟩
    . rw [if_neg (by simp [hc])]
      exact ⟨bs ++ [c], rfl, rfl⟩

theorem segments_join (hq : q.isAbsolute = false) :
    (p.join q).segments = p.segments ++ q.segments := by
  rcases join_eq hq with ⟨hp, hjoin⟩ | ⟨bs, hjoin, hsegments⟩
  . rw [hjoin, segments, segments, hp]
    rfl
  . rw [hjoin, segments_append_slash, hsegments]

theorem getLast?_join (hq : q.isAbsolute = false) (hne : q.octets ≠ []) :
    (p.join q).octets.getLast? = q.octets.getLast? := by
  rcases join_eq hq with ⟨_, hjoin⟩ | ⟨bs, hjoin, _⟩
  . rw [hjoin]
  . rcases List.eq_nil_or_concat q.octets with hnil | ⟨cs, c, hconcat⟩
    . cases hne hnil
    . rw [hjoin, hconcat]
      simp [List.getLast?_append, List.getLast?_cons]

theorem isAbsolute_join (hq : q.isAbsolute = false) : (p.join q).isAbsolute = p.isAbsolute := by
  unfold join
  rw [if_neg (by simp [hq])]
  unfold isAbsolute at hq ⊢
  cases p.octets with
  | nil => exact hq
  | cons b rest => split <;> rfl

theorem segments_ne_nil (hq : q.isAbsolute = false) (hne : q.octets ≠ []) : q.segments ≠ [] := by
  obtain ⟨b, rest, hoctets⟩ := List.exists_cons_of_ne_nil hne
  unfold isAbsolute at hq
  unfold segments
  rw [hoctets] at hq ⊢
  have hb : b ≠ slash := by
    intro hb
    simp [hb] at hq
  obtain ⟨head, tail, hrest⟩ := List.exists_cons_of_ne_nil (List.splitOn_ne_nil slash rest)
  rw [List.splitOn_cons_eq_if_modifyHead, if_neg (by simp [hb]), hrest]
  simp

theorem isAbsolute_intercalate {head next : Octets} {rest : List Octets} (h : slash ∉ head) :
    isAbsolute ⟨[slash].intercalate (head :: next :: rest)⟩ = head.isEmpty := by
  rw [List.intercalate_cons_cons]
  unfold isAbsolute
  cases head with
  | nil => simp
  | cons b head =>
    rw [List.mem_cons, not_or] at h
    simp [Ne.symm h.1]

theorem isAbsolute_singleton {head : Octets} (h : slash ∉ head) : isAbsolute ⟨head⟩ = false := by
  unfold isAbsolute
  cases head with
  | nil => rfl
  | cons b head =>
    rw [List.mem_cons, not_or] at h
    simp [Ne.symm h.1]

/-- The path whose segments are `kept`, which was cut from the segments of a longer path. -/
theorem exists_parent {head : Octets} {kept : List Octets}
    (h : ∀ segment ∈ head :: kept, slash ∉ segment) :
    let d : FilePath :=
      ⟨if head :: kept = [[]] then [slash] else [slash].intercalate (head :: kept)⟩
    d.isAbsolute = head.isEmpty ∧ d.segments = (head :: kept).filter (!·.isEmpty) := by
  dsimp only
  by_cases hroot : head :: kept = [[]]
  . rw [if_pos hroot, hroot]
    cases hroot
    exact ⟨rfl, rfl⟩
  . rw [if_neg hroot]
    refine ⟨?_, ?_⟩
    . cases kept with
      | nil =>
        have hhead : head ≠ [] := by
          rintro rfl
          cases hroot rfl
        rw [List.intercalate_singleton, isAbsolute_singleton (h head List.mem_cons_self)]
        simp [hhead]
      | cons next kept => exact isAbsolute_intercalate (h head List.mem_cons_self)
    . unfold segments
      rw [List.splitOn_intercalate slash h (List.cons_ne_nil _ _)]

theorem parent?_of_splitOn {before : List Octets}
    (hsplit : p.octets.splitOn slash = before ++ [last]) (hlast : isIdle last = false) :
    ∃ d rest, p.parent? = some d ∧ d.isAbsolute = p.isAbsolute ∧
      before.filter (!·.isEmpty) = d.segments ++ rest ∧ ∀ part ∈ rest, part = [point] := by
  have hslash : ∀ segment ∈ before ++ [last], slash ∉ segment := by
    intro segment h
    rw [← hsplit] at h
    exact notMem_of_mem_splitOn h
  have hoctets : p = ⟨[slash].intercalate (before ++ [last])⟩ := by
    rw [← hsplit, List.intercalate_splitOn]
  unfold parent?
  rw [hsplit]
  cases before with
  | nil =>
    refine ⟨⟨[]⟩, [], ?_, ?_, rfl, by simp⟩
    . have hne : last.isEmpty = false := by
        unfold isIdle at hlast
        simp_all
      simp [hne]
    . rw [hoctets, List.nil_append, List.intercalate_singleton]
      exact (isAbsolute_singleton (hslash last (by simp))).symm
  | cons head middle =>
    have habsolute : p.isAbsolute = head.isEmpty := by
      rw [hoctets]
      cases middle with
      | nil => exact isAbsolute_intercalate (hslash head (by simp))
      | cons next middle => exact isAbsolute_intercalate (hslash head (by simp))
    -- The directory is cut off after the last segment that is not idle.
    have hcut : middle = (middle.reverse.dropWhile isIdle).reverse
        ++ (middle.reverse.takeWhile isIdle).reverse := by
      rw [← List.reverse_append, List.takeWhile_append_dropWhile, List.reverse_reverse]
    have hkept : ∀ segment ∈ head :: (middle.reverse.dropWhile isIdle).reverse,
        slash ∉ segment := by
      intro segment h
      apply hslash
      rw [hcut]
      rcases List.mem_cons.mp h with rfl | h
      . simp
      . simp [h]
    obtain ⟨hdirectory, hsegments⟩ := exists_parent hkept
    refine ⟨_, (middle.reverse.takeWhile isIdle).reverse.filter (!·.isEmpty), ?_,
      hdirectory.trans habsolute.symm, ?_, ?_⟩
    . rw [List.cons_append]
      simp [hlast]
    . rw [hsegments, ← List.filter_append, List.cons_append, ← hcut]
    . intro part h
      obtain ⟨hmem, hne⟩ := List.mem_filter.mp h
      have hidle : isIdle part = true :=
        List.all_eq_true.mp List.all_takeWhile part (List.mem_reverse.mp hmem)
      rw [isIdle, (Bool.not_eq_true' _).mp hne, Bool.false_or] at hidle
      exact beq_iff_eq.mp hidle

theorem mem_of_mem_splitOn (h : segment ∈ bs.splitOn slash) (hc : c ∈ segment) : c ∈ bs := by
  have hmem := mem_intercalate_of_mem (x := slash) h hc
  rw [List.intercalate_splitOn] at hmem
  exact hmem

/-- There is nothing in the directory's path that is not in the path, but for a slash. -/
theorem mem_or_of_parent? (h : p.parent? = some d) (hc : c ∈ d.octets) :
    c = slash ∨ c ∈ p.octets := by
  unfold parent? at h
  split at h
  . cases h
  . rename_i head tail hsplit
    split at h
    . rename_i cut before hcut
      cases h
      dsimp only at hc
      split at hc
      . exact .inl (List.mem_singleton.mp hc)
      . rcases mem_or_of_mem_intercalate hc with hslash | ⟨part, hpart, hc⟩
        . exact .inl hslash
        . right
          refine mem_of_mem_splitOn ?_ hc
          rw [hsplit]
          rcases List.mem_cons.mp hpart with rfl | hpart
          . exact List.mem_cons_self
          . apply List.mem_cons_of_mem
            have hmem : part ∈ tail.reverse.dropWhile isIdle := by
              rw [hcut]
              apply List.mem_cons_of_mem
              exact (List.dropWhile_sublist _).mem (List.mem_reverse.mp hpart)
            exact List.mem_reverse.mp ((List.dropWhile_sublist _).mem hmem)
    . split at h
      . cases h
      . cases h
        cases hc

theorem mem_or_of_mem_join (h : c ∈ (p.join q).octets) :
    c = slash ∨ c ∈ p.octets ∨ c ∈ q.octets := by
  unfold join at h
  split at h
  . exact .inr (.inr h)
  . split at h
    . exact .inr (List.mem_append.mp h)
    . rcases List.mem_append.mp h with h | h
      . exact .inr (.inl h)
      . rcases List.mem_cons.mp h with h | h
        . exact .inl h
        . exact .inr (.inr h)

end FilePath

open FilePath

namespace FileTree

variable {p q : FilePath} {init : List Octets} {last : Octets}

theorem parts_eq (p : FilePath) :
    parts p =
      if p.octets.getLast? = some slash ∧ !p.segments.isEmpty then p.segments ++ [here]
      else p.segments :=
  rfl

theorem isAbsolute_of_parts (h : parts p = []) (hne : p.octets ≠ []) : p.isAbsolute = true := by
  cases hrelative : p.isAbsolute with
  | true => rfl
  | false =>
    have hsegments := segments_ne_nil hrelative hne
    rw [parts_eq] at h
    split at h
    . simp at h
    . cases hsegments h

theorem parts_join_of_ne_nil (hq : q.isAbsolute = false) (hne : q.octets ≠ []) :
    parts (p.join q) = p.segments ++ parts q := by
  have hp : (!(p.segments ++ q.segments).isEmpty) = true := by
    simp [segments_ne_nil hq hne]
  have hq' : (!q.segments.isEmpty) = true := by
    simp [segments_ne_nil hq hne]
  rw [parts_eq, parts_eq, segments_join hq, getLast?_join hq hne, hp, hq']
  split
  . rw [List.append_assoc]
  . rfl

/-- If nothing is joined to a path, a slash still is. -/
theorem parts_join (hq : q.isAbsolute = false) :
    ∃ rest, parts (p.join q) = p.segments ++ (parts q ++ rest) ∧ ∀ part ∈ rest, part = here := by
  by_cases hnil : q.octets = []
  . have hparts : parts q = [] := by
      unfold parts
      rw [hnil]
      rfl
    have hsegments : q.segments = [] := by
      unfold segments
      rw [hnil]
      rfl
    rw [parts_eq, segments_join hq, hsegments, hparts, List.append_nil]
    split
    . exact ⟨[here], rfl, by simp⟩
    . exact ⟨[], (List.append_nil _).symm, by simp⟩
  . refine ⟨[], ?_, by simp⟩
    rw [List.append_nil]
    exact parts_join_of_ne_nil hq hnil

theorem parts_parent? (hparts : parts p = init ++ [last]) (hlast : last ≠ here) :
    ∃ d rest, p.parent? = some d ∧ d.isAbsolute = p.isAbsolute ∧ init = d.segments ++ rest ∧
      ∀ part ∈ rest, part = here := by
  rw [parts_eq] at hparts
  split at hparts
  . obtain ⟨_, hhere⟩ := List.append_inj' hparts rfl
    cases hhere
    cases hlast rfl
  . rename_i hends
    rcases List.eq_nil_or_concat p.octets with hnil | ⟨bs, c, hconcat⟩
    . rw [segments, hnil] at hparts
      simp at hparts
    . rw [List.concat_eq_append] at hconcat
      have hc : c ≠ slash := by
        rintro rfl
        apply hends
        simp [hconcat, hparts]
      obtain ⟨before, last', hsplit, hlast'⟩ := splitOn_concat bs hc
      rw [← hconcat] at hsplit
      rw [segments, hsplit, List.filter_append,
        List.filter_cons_of_pos (by simp [hlast']), List.filter_nil] at hparts
      obtain ⟨hinit, hsame⟩ := List.append_inj' hparts rfl
      cases hsame
      have hidle : isIdle last = false := by
        unfold isIdle
        unfold here at hlast
        simp [hlast, hlast']
      rw [← hinit]
      exact parent?_of_splitOn hsplit hidle

end FileTree

end FreshIndex
