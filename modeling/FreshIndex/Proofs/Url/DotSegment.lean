import FreshIndex.FilePath
import FreshIndex.Proofs.Text.Percent
import FreshIndex.Url.Path

/-!
This module contains the proof that a segment is a dot segment only if it stands for points, however
they are written.
-/

namespace FreshIndex.Url

open Text

variable {cs ds s : List Char}

theorem eq_or_of_toLower {c d : Char} (h : c.toLower = d) :
    c = d ∨ 97 ≤ d.toNat ∧ c.toNat + 32 = d.toNat := by
  unfold Char.toLower at h
  split at h
  . rename_i hupper
    have hle : 65 ≤ c.val.toNat ∧ c.val.toNat ≤ 90 := hupper
    have hd : d.val.toNat = c.val.toNat + 32 := by
      have hshift : ('a'.val - 'A'.val).toNat = 32 := rfl
      rw [← h, UInt32.toNat_add, hshift]
      omega
    right
    change 97 ≤ d.val.toNat ∧ c.val.toNat + 32 = d.val.toNat
    omega
  . exact .inl h

theorem eq_of_toLower {c d : Char} (h : c.toLower = d) (hd : d.toNat < 97) : c = d := by
  rcases eq_or_of_toLower h with hc | ⟨hle, _⟩
  . exact hc
  . omega

theorem decode_of_point (h : cs.map Char.toLower = '.' :: ds) :
    ∃ rest, Percent.decode cs = FilePath.point :: Percent.decode rest ∧
      rest.map Char.toLower = ds := by
  obtain ⟨c, rest, rfl, hc, hrest⟩ := List.map_eq_cons_iff.mp h
  cases eq_of_toLower hc (by decide)
  exact ⟨rest, Percent.decode_cons (by decide) rest, hrest⟩

theorem decode_of_pointCode (h : cs.map Char.toLower = '%' :: '2' :: 'e' :: ds) :
    ∃ rest, Percent.decode cs = FilePath.point :: Percent.decode rest ∧
      rest.map Char.toLower = ds := by
  obtain ⟨c1, rest1, rfl, hc1, hrest1⟩ := List.map_eq_cons_iff.mp h
  obtain ⟨c2, rest2, rfl, hc2, hrest2⟩ := List.map_eq_cons_iff.mp hrest1
  obtain ⟨c3, rest, rfl, hc3, hrest⟩ := List.map_eq_cons_iff.mp hrest2
  cases eq_of_toLower hc1 (by decide)
  cases eq_of_toLower hc2 (by decide)
  refine ⟨rest, ?_, hrest⟩
  rcases eq_or_of_toLower hc3 with rfl | ⟨_, hupper⟩
  . rfl
  . have hcode : c3.toNat = 'E'.toNat := by simpa using hupper
    rw [← Char.ofNat_toNat c3, hcode]
    rfl

theorem decode_of_isDot (h : isDot s = true) : Percent.decode s = [FilePath.point] := by
  unfold isDot at h
  simp only [Bool.or_eq_true, decide_eq_true_eq] at h
  rcases h with rfl | h
  . rfl
  . obtain ⟨rest, hdecode, hrest⟩ := decode_of_pointCode h
    rw [List.map_eq_nil_iff.mp hrest] at hdecode
    exact hdecode

theorem decode_of_isDoubleDot (h : isDoubleDot s = true) :
    Percent.decode s = [FilePath.point, FilePath.point] := by
  unfold isDoubleDot at h
  simp only [Bool.or_eq_true, decide_eq_true_eq, List.cons_append, List.nil_append] at h
  have htwo {rest rest' : List Char}
      (h1 : Percent.decode s = FilePath.point :: Percent.decode rest)
      (h2 : Percent.decode rest = FilePath.point :: Percent.decode rest')
      (h3 : rest'.map Char.toLower = []) :
      Percent.decode s = [FilePath.point, FilePath.point] := by
    rw [h1, h2, List.map_eq_nil_iff.mp h3]
    rfl
  rcases h with ((h | h) | h) | h
  . obtain ⟨rest, h1, hrest⟩ := decode_of_point h
    obtain ⟨rest', h2, h3⟩ := decode_of_point hrest
    exact htwo h1 h2 h3
  . obtain ⟨rest, h1, hrest⟩ := decode_of_point h
    obtain ⟨rest', h2, h3⟩ := decode_of_pointCode hrest
    exact htwo h1 h2 h3
  . obtain ⟨rest, h1, hrest⟩ := decode_of_pointCode h
    obtain ⟨rest', h2, h3⟩ := decode_of_point hrest
    exact htwo h1 h2 h3
  . obtain ⟨rest, h1, hrest⟩ := decode_of_pointCode h
    obtain ⟨rest', h2, h3⟩ := decode_of_pointCode hrest
    exact htwo h1 h2 h3

theorem isDoubleDot_encodeOctets (escaped : Char → Bool) :
    isDoubleDot (Percent.encodeOctets escaped [FilePath.point, FilePath.point]) = true := by
  have hpoint : Percent.encodeOctet escaped FilePath.point
      = if escaped '.' then ['%', '2', 'E'] else ['.'] := by
    rfl
  unfold Percent.encodeOctets
  rw [List.flatMap_cons, List.flatMap_singleton, hpoint]
  cases escaped '.' with
  | true => decide
  | false => decide

end FreshIndex.Url
