import Mathlib.Data.List.TakeWhile
import FreshIndex.Proofs.FilePath.NormalForm
import FreshIndex.Proofs.Url.Trail
import FreshIndex.Url.Basic

/-!
This module contains how the text of a `file` URL is read that has no host, and whose path is
escaped: the path's segments are those of the text after dot segments are followed.
-/

namespace FreshIndex.Url

open Text

variable {c : Char} {cs rest : List Char} {segments : List (List Char)}

/-- A character of a path: one of a segment, or the slash between segments. -/
def IsOfPath (c : Char) : Prop :=
  c = '/' ∨ Stays c

namespace IsOfPath

theorem ne_of_path {d : Char} (h : IsOfPath c) (hd : Percent.path d = true) : c ≠ d := by
  rcases h with rfl | h
  . rintro rfl
    cases hd
  . exact h.ne_of_path hd

theorem isBreak (h : IsOfPath c) : isBreak c = false := by
  rcases h with rfl | h
  . rfl
  . exact h.isBreak

theorem endsPath (h : IsOfPath c) : Reader.endsPath c = false := by
  unfold Reader.endsPath
  rw [Bool.or_eq_false_iff, beq_eq_false_iff_ne, beq_eq_false_iff_ne]
  exact ⟨h.ne_of_path rfl, h.ne_of_path rfl⟩

theorem lt_toNat (h : IsOfPath c) : 0x20 < c.toNat := by
  rcases h with rfl | h
  . decide
  . have hkept := h.kept
    unfold Percent.path Percent.fragment Percent.control at hkept
    simp only [Bool.or_eq_false_iff, decide_eq_false_iff_not, beq_eq_false_iff_ne] at hkept
    have hspace : c.toNat ≠ 0x20 := by
      intro hspace
      apply h.ne_of_path (d := ' ') rfl
      rw [← Char.ofNat_toNat c, hspace]
    omega

end IsOfPath

namespace Reader

theorem trimmed_eq_self (h : ∀ c ∈ cs, 0x20 < c.toNat) : trimmed cs = cs := by
  have hedge : ∀ c ∈ cs, decide (c.toNat ≤ 0x20) = false := by
    intro c hc
    have hlt := h c hc
    rw [decide_eq_false_iff_not]
    omega
  unfold trimmed
  dsimp only
  rw [dropWhile_eq_self hedge, dropWhile_eq_self fun c hc => hedge c (List.mem_reverse.mp hc),
    List.reverse_reverse]

theorem afterSlash?_slash (cs : List Char) : afterSlash? ('/' :: cs) = some cs := by
  unfold afterSlash?
  rw [List.dropWhile_cons_of_neg (by decide)]
  rfl

theorem fileHost_slash (cs : List Char) : fileHost ('/' :: cs) = .ok (.empty, '/' :: cs) := by
  unfold fileHost
  dsimp only
  rw [List.takeWhile_cons_of_neg (by decide), List.dropWhile_cons_of_neg (by decide)]
  rfl

theorem filePlace_slash (cs : List Char) :
    filePlace ('/' :: '/' :: '/' :: cs) = .ok (.empty, '/' :: cs) := by
  unfold filePlace
  rw [afterSlash?_slash]
  dsimp only
  rw [afterSlash?_slash]
  exact fileHost_slash cs

theorem trail_of_path (h : ∀ c ∈ cs, IsOfPath c) :
    trail .file cs = (Trail.along true (cs.splitOnP Family.file.isSlash), []) := by
  have hpath : ∀ c ∈ cs, (!endsPath c) = true := by
    intro c hc
    rw [(h c hc).endsPath]
    rfl
  unfold trail
  rw [List.takeWhile_eq_self_iff.mpr hpath, List.dropWhile_eq_nil_iff.mpr hpath]
  rfl

/-- The path that a `file` URL has whose dot segments are followed. -/
def pathOfTrail (t : Trail) : Path :=
  let parts := t.segments.dropWhile List.isEmpty
  .segments (if parts.isEmpty then [[]] else parts)

theorem fileUrl_of_path (scheme : List Char) (h : ∀ c ∈ rest, IsOfPath c) :
    fileUrl scheme ('/' :: '/' :: '/' :: rest) = .ok {
      scheme
      authority := some ⟨[], none, .empty, none⟩
      path := pathOfTrail (.along true (('/' :: rest).splitOnP Family.file.isSlash))
      query := none
      fragment := none } := by
  have hchars : ∀ c ∈ '/' :: rest, IsOfPath c := List.forall_mem_cons.mpr ⟨.inl rfl, h⟩
  unfold fileUrl
  rw [filePlace_slash]
  dsimp only [bind, Except.bind]
  rw [trail_of_path hchars]
  dsimp only
  rw [ite_self]
  rfl

end Reader

theorem parse_of_path (h : ∀ c ∈ rest, IsOfPath c) :
    parse ("file://" ++ String.ofList ('/' :: rest)) = .ok {
      scheme := ['f', 'i', 'l', 'e']
      authority := some ⟨[], none, .empty, none⟩
      path := Reader.pathOfTrail (.along true (('/' :: rest).splitOnP Family.file.isSlash))
      query := none
      fragment := none } := by
  let text := 'f' :: 'i' :: 'l' :: 'e' :: ':' :: '/' :: '/' :: '/' :: rest
  have htext : ("file://" ++ String.ofList ('/' :: rest)).toList = text := by
    simp [text]
  have hall : ∀ c ∈ text, 0x20 < c.toNat ∧ isBreak c = false := by
    simp only [text, List.forall_mem_cons]
    refine ⟨by decide, by decide, by decide, by decide, by decide, by decide, by decide,
      by decide, ?_⟩
    intro c hc
    exact ⟨(h c hc).lt_toNat, (h c hc).isBreak⟩
  have hscheme : Reader.scheme? text = some (['f', 'i', 'l', 'e'], '/' :: '/' :: '/' :: rest) := rfl
  unfold parse
  dsimp only
  rw [htext, Reader.trimmed_eq_self fun c hc => (hall c hc).1,
    unbroken_eq_self fun c hc => (hall c hc).2, hscheme]
  exact Reader.fileUrl_of_path ['f', 'i', 'l', 'e'] h

theorem splitOnP_of_path (h : ∀ s ∈ segments, ∀ c ∈ s, Stays c) (hne : segments ≠ []) :
    (['/'].intercalate segments).splitOnP Family.file.isSlash = segments := by
  have hkeep {s : List Char} (hs : ∀ c ∈ s, Stays c) : ∀ c ∈ s, Family.file.isSlash c = false := by
    intro c hc
    simp [Family.isSlash, (hs c hc).noSlash, (hs c hc).noBackslash]
  induction segments with
  | nil => cases hne rfl
  | cons s rest ih =>
    rw [List.forall_mem_cons] at h
    cases rest with
    | nil =>
      rw [List.intercalate_singleton]
      exact List.splitOnP_eq_singleton (hkeep h.1)
    | cons next rest =>
      rw [List.intercalate_cons_cons, List.append_assoc, List.singleton_append,
        List.splitOnP_append_cons_of_forall_mem (hkeep h.1) '/' rfl,
        ih h.2 (List.cons_ne_nil next rest)]

/-- The segments of an address are those of its path, after dot segments are followed. -/
theorem parse_of_segments (h : ∀ s ∈ segments, ∀ c ∈ s, Stays c) (hne : segments ≠ []) :
    parse ("file://" ++ String.ofList (['/'].intercalate ([] :: segments))) = .ok {
      scheme := ['f', 'i', 'l', 'e']
      authority := some ⟨[], none, .empty, none⟩
      path := Reader.pathOfTrail (.along true ([] :: segments))
      query := none
      fragment := none } := by
  have hchars : ∀ c ∈ ['/'].intercalate segments, IsOfPath c := by
    intro c hc
    rcases mem_or_of_mem_intercalate hc with hc | ⟨s, hs, hc⟩
    . exact .inl hc
    . exact .inr (h s hs c hc)
  have hall : ∀ s ∈ [] :: segments, ∀ c ∈ s, Stays c := List.forall_mem_cons.mpr ⟨nofun, h⟩
  have hslash : ['/'].intercalate ([] :: segments) = '/' :: ['/'].intercalate segments := by
    obtain ⟨first, rest, rfl⟩ := List.exists_cons_of_ne_nil hne
    rw [List.intercalate_cons_cons]
    rfl
  have hparse := parse_of_path hchars
  rw [← hslash, splitOnP_of_path hall (List.cons_ne_nil _ _)] at hparse
  exact hparse

/-- No name of a path is lost with the empty segments in front. -/
theorem exists_pathOfTrail (t : Trail) :
    ∃ parts, Reader.pathOfTrail t = .segments parts ∧ parts ≠ [] ∧
      (∀ s ∈ parts, s ∈ t.segments ∨ s = []) ∧
      (parts.map Percent.decode).filter (!FilePath.isIdle ·)
        = (t.segments.map Percent.decode).filter (!FilePath.isIdle ·) := by
  have hdrop (segments : List (List Char)) :
      ((segments.dropWhile List.isEmpty).map Percent.decode).filter (!FilePath.isIdle ·)
        = (segments.map Percent.decode).filter (!FilePath.isIdle ·) := by
    induction segments with
    | nil => rfl
    | cons s rest ih =>
      cases s with
      | nil =>
        rw [List.dropWhile_cons_of_pos rfl, ih]
        rfl
      | cons c s => rw [List.dropWhile_cons_of_neg (by simp)]
  unfold Reader.pathOfTrail
  dsimp only
  split
  . rename_i hempty
    refine ⟨[[]], rfl, List.cons_ne_nil _ _, fun s hs => .inr (List.mem_singleton.mp hs), ?_⟩
    rw [← hdrop t.segments, List.isEmpty_iff.mp hempty]
    rfl
  . rename_i hne
    refine ⟨_, rfl, by simpa using hne, ?_, hdrop _⟩
    intro s hs
    exact .inl ((List.dropWhile_sublist _).mem hs)

theorem names_flatMap (h : ∀ s ∈ segments, FilePath.slash ∉ Percent.decode s) :
    FilePath.names ⟨segments.flatMap fun s => FilePath.slash :: Percent.decode s⟩
      = (segments.map Percent.decode).filter (!FilePath.isIdle ·) := by
  have hjoined := FilePath.intercalate_cons_eq_flatMap (x := FilePath.slash) []
    (segments.map Percent.decode)
  rw [List.nil_append, List.flatMap_map] at hjoined
  have hslash : ∀ name ∈ [] :: segments.map Percent.decode, FilePath.slash ∉ name := by
    rw [List.forall_mem_cons, List.forall_mem_map]
    exact ⟨List.not_mem_nil, h⟩
  rw [← hjoined, FilePath.names_intercalate hslash]
  rfl

end FreshIndex.Url
