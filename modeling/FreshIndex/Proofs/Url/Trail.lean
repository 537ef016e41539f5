import FreshIndex.Proofs.Text.Percent
import FreshIndex.Url.Path

/-!
This module contains what is left of the segments of a path after dot segments are followed, where
the segments are already escaped and hold no breaks.
-/

namespace FreshIndex.Url

open Text

/-- A character that stays as it is in a segment of a path, and does not end the segment. -/
structure Stays (c : Char) : Prop where
  ascii : c.toNat < 0x80
  kept : Percent.path c = false
  noSlash : c ≠ '/'
  noBackslash : c ≠ '\\'

variable {c : Char} {cs s : List Char} {segments rest : List (List Char)} {t : Trail}
  {P : List Char → Prop}

namespace Stays

theorem isBreak (h : Stays c) : isBreak c = false := by
  unfold Url.isBreak
  rw [Bool.or_eq_false_iff, Bool.or_eq_false_iff]
  refine ⟨⟨?_, ?_⟩, ?_⟩
  all_goals
    rw [beq_eq_false_iff_ne]
    rintro rfl
    cases h.kept

theorem ne_of_path {d : Char} (h : Stays c) (hd : Percent.path d = true) : c ≠ d := by
  rintro rfl
  rw [h.kept] at hd
  cases hd

end Stays

theorem dropWhile_eq_self {p : Char → Bool} (h : ∀ c ∈ cs, p c = false) : cs.dropWhile p = cs := by
  cases cs with
  | nil => rfl
  | cons c rest => rw [List.dropWhile_cons_of_neg (by simp [h c List.mem_cons_self])]

theorem unbroken_eq_self (h : ∀ c ∈ cs, isBreak c = false) : unbroken cs = cs := by
  unfold unbroken
  rw [List.filter_eq_self]
  intro c hc
  rw [h c hc]
  rfl

theorem escapedSegment_eq_self (h : ∀ c ∈ s, Stays c) : escapedSegment s = s := by
  unfold escapedSegment
  rw [unbroken_eq_self fun c hc => (h c hc).isBreak]
  exact Percent.encode_eq_self fun c hc => ⟨(h c hc).ascii, (h c hc).kept⟩

theorem drivePart?_eq_none (h : ∀ c ∈ s, isBreak c = false) : drivePart? s = none := by
  unfold drivePart?
  rw [dropWhile_eq_self h]
  cases s with
  | nil => rfl
  | cons c rest =>
    dsimp only
    rw [dropWhile_eq_self fun d hd => h d (List.mem_cons_of_mem c hd)]
    split
    . rename_i b rest
      rw [if_neg]
      simp [h b (by simp)]
    . rfl

theorem isAlpha_of_drive? {letter : Char} (h : drive? s = some letter) :
    letter.isAlpha = true := by
  unfold drive? at h
  split at h
  . split at h
    . rename_i hdrive
      cases h
      exact (Bool.and_eq_true_iff.mp hdrive).1
    . cases h
  . cases h

namespace Trail

/-- A segment of the trail was there before, or it is the one followed, or a drive. -/
theorem mem_follow (h : ∀ c ∈ s, Stays c) {k : List Char} (hk : k ∈ (follow true t s).kept) :
    k ∈ t.kept ∨ (k = s ∧ isDoubleDot s = false) ∨
      ∃ letter, letter.isAlpha = true ∧ k = driveSegment letter := by
  unfold follow at hk
  dsimp only at hk
  rw [escapedSegment_eq_self h] at hk
  split at hk
  . left
    unfold up at hk
    split at hk
    . exact hk
    . rename_i last before hkept
      split at hk
      . exact hk
      . rw [hkept]
        exact List.mem_cons_of_mem last hk
  . rename_i hdouble
    rw [Bool.not_eq_true] at hdouble
    have hpush (hk : k ∈ (t.push s).kept) :
        k ∈ t.kept ∨ (k = s ∧ isDoubleDot s = false) ∨
          ∃ letter, letter.isAlpha = true ∧ k = driveSegment letter := by
      rcases List.mem_cons.mp hk with rfl | hk
      . exact .inr (.inl ⟨rfl, hdouble⟩)
      . exact .inl hk
    split at hk
    . exact .inl hk
    . split at hk
      . unfold start at hk
        rw [drivePart?_eq_none fun c hc => (h c hc).isBreak, escapedSegment_eq_self h] at hk
        dsimp only at hk
        split at hk
        . rename_i letter hdrive
          rcases List.mem_cons.mp hk with rfl | hk
          . exact .inr (.inr ⟨letter, isAlpha_of_drive? hdrive, rfl⟩)
          . exact .inl hk
        . exact hpush hk
      . exact hpush hk

theorem forall_mem_foldl (hstays : ∀ s ∈ segments, ∀ c ∈ s, Stays c)
    (hsegment : ∀ s ∈ segments, isDoubleDot s = false → P s)
    (hdrive : ∀ letter, letter.isAlpha = true → P (driveSegment letter))
    (ht : ∀ k ∈ t.kept, P k) : ∀ k ∈ (segments.foldl (follow true) t).kept, P k := by
  induction segments generalizing t with
  | nil => exact ht
  | cons s rest ih =>
    rw [List.forall_mem_cons] at hstays hsegment
    apply ih hstays.2 hsegment.2
    intro k hk
    rcases mem_follow hstays.1 hk with hk | ⟨rfl, hdouble⟩ | ⟨letter, halpha, rfl⟩
    . exact ht k hk
    . exact hsegment.1 hdouble
    . exact hdrive letter halpha

/-- What holds of all segments that do not lead upwards, and of all drives, holds of the trail. -/
theorem forall_mem_along (hstays : ∀ s ∈ segments, ∀ c ∈ s, Stays c)
    (hsegment : ∀ s ∈ segments, isDoubleDot s = false → P s)
    (hdrive : ∀ letter, letter.isAlpha = true → P (driveSegment letter)) (hnil : P []) :
    ∀ k ∈ (along true segments).segments, P k := by
  have hfold := forall_mem_foldl hstays hsegment hdrive (t := root) nofun
  intro k hk
  unfold Trail.segments at hk
  rw [List.mem_reverse] at hk
  unfold along at hk
  dsimp only at hk
  split at hk
  . rcases List.mem_cons.mp hk with rfl | hk
    . exact hnil
    . exact hfold k hk
  . exact hfold k hk

/-- After the first segment, and if none leads upwards, all but the single dots are kept. -/
theorem foldl_follow (hstays : ∀ s ∈ segments, ∀ c ∈ s, Stays c)
    (hdouble : ∀ s ∈ segments, isDoubleDot s = false) (ht : t.kept ≠ []) :
    segments.foldl (follow true) t
      = { t with kept := (segments.filter (!isDot ·)).reverse ++ t.kept } := by
  induction segments generalizing t with
  | nil => rfl
  | cons s rest ih =>
    rw [List.forall_mem_cons] at hstays hdouble
    have hfollow : follow true t s = if isDot s then t else t.push s := by
      unfold follow
      dsimp only
      rw [escapedSegment_eq_self hstays.1, hdouble.1, if_neg (by decide)]
      simp [ht]
    rw [List.foldl_cons, hfollow]
    cases hdot : isDot s with
    | true =>
      rw [if_pos rfl, ih hstays.2 hdouble.2 ht, List.filter_cons_of_neg (by simp [hdot])]
    | false =>
      rw [if_neg (by decide), ih hstays.2 hdouble.2 (List.cons_ne_nil _ _),
        List.filter_cons_of_pos (by simp [hdot]), List.reverse_cons, List.append_assoc]
      rfl

theorem segments_along (hstays : ∀ s ∈ rest, ∀ c ∈ s, Stays c)
    (hdouble : ∀ s ∈ rest, isDoubleDot s = false) :
    ∃ ending, (along true ([] :: rest)).segments = [] :: rest.filter (!isDot ·) ++ ending ∧
      ∀ s ∈ ending, s = [] := by
  have hfold : ([] :: rest).foldl (follow true) root
      = { push root [] with kept := (rest.filter (!isDot ·)).reverse ++ [[]] } :=
    foldl_follow hstays hdouble (t := push root []) (List.cons_ne_nil _ _)
  unfold along Trail.segments
  dsimp only
  rw [hfold]
  split
  . exact ⟨[[]], by simp [push], by simp⟩
  . exact ⟨[], by simp, nofun⟩

end Trail

end FreshIndex.Url
