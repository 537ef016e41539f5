import FreshIndex.Proofs.DocumentUri.Address

/-!
This module contains which documents at absolute paths are read back from their text. All are but
those whose path leads upwards, since a URL is read without `..`.
-/

namespace FreshIndex

open Text FilePath

namespace DocumentUri

variable {p : FilePath}

theorem ofPath_normalize (p : FilePath) : ofPath p.normalize = ofPath p := by
  unfold ofPath
  rw [file.injEq, normalize_eq_iff, isAbsolute_normalize, names_normalize]
  exact ⟨rfl, rfl⟩

theorem splitOn_normalize (h : p.isAbsolute = true) :
    p.normalize.octets.splitOn slash = [] :: if p.names = [] then [[]] else p.names := by
  have hslash : ∀ name ∈ [] :: p.names, slash ∉ name :=
    List.forall_mem_cons.mpr ⟨List.not_mem_nil, fun name hname => (mem_names hname).1⟩
  unfold FilePath.normalize ofNames
  rw [if_pos h]
  cases hnames : p.names with
  | nil => rfl
  | cons first rest =>
    rw [hnames] at hslash
    have hjoined : [slash] ++ [slash].intercalate (first :: rest)
        = [slash].intercalate ([] :: first :: rest) := by
      rw [List.intercalate_cons_cons]
      rfl
    dsimp only
    rw [hjoined, List.splitOn_intercalate slash hslash (List.cons_ne_nil _ _)]
    rfl

/-- The text of a document is the address of its path in which no more than need be is escaped. -/
theorem display_ofPath (h : p.isAbsolute = true) :
    display (ofPath p) = addressOf Percent.segment p.normalize := by
  unfold ofPath display
  dsimp only
  rw [if_pos (by rw [isAbsolute_normalize, h])]
  unfold fileAddress addressOf
  dsimp only
  rw [names_normalize, splitOn_normalize h, List.map_cons, intercalate_cons_eq_flatMap]
  cases p.names with
  | nil => rfl
  | cons first rest => rfl

/-- A document at an absolute path is read back from its text if and only if it has no `..`. -/
theorem parse_display (p : FilePath) (h : p.isAbsolute = true) :
    ∃ uri, parse (display (ofPath p)) = .ok uri ∧ (uri = ofPath p ↔ FileTree.above ∉ p.names) := by
  have hescapes : Escapes Percent.segment := fun _ hc => hc
  obtain ⟨uri, hparse, hsame⟩ :=
    parse_addressOf_eq_iff hescapes (p := p.normalize) (by rw [isAbsolute_normalize, h])
  rw [← display_ofPath h] at hparse
  rw [ofPath_normalize, names_normalize] at hsame
  exact ⟨uri, hparse, hsame⟩

/-- Marks that would end a path, points written by their code, and a name like a drive within. -/
theorem parse_display_marks :
    let p := FilePath.ofText "/50% of #1?/C|/a\\b\x01é//./%2e%2E/"
    p.isAbsolute = true ∧ FileTree.above ∉ p.names ∧
      display (ofPath p) = "file:///50%25%20of%20%231%3F/C|/a%5Cb%01%C3%A9/%252e%252E" ∧
      parse "file:///50%25%20of%20%231%3F/C|/a%5Cb%01%C3%A9/%252e%252E" = .ok (ofPath p) := by
  intro p
  have hroot : p.isAbsolute = true := by decide
  have habove : FileTree.above ∉ p.names := by decide
  have hdisplay : display (ofPath p)
      = "file:///50%25%20of%20%231%3F/C|/a%5Cb%01%C3%A9/%252e%252E" := by
    decide +kernel
  obtain ⟨uri, hparse, hsame⟩ := parse_display p hroot
  rw [hdisplay, hsame.mpr habove] at hparse
  exact ⟨hroot, habove, hdisplay, hparse⟩

end DocumentUri

end FreshIndex
