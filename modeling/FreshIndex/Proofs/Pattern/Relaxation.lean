import FreshIndex.Proofs.Pattern.Subsequence

/-!
This module contains the proof that a search loses no name when less is asked of it: when an end is
no longer anchored, or when there may be gaps.
-/

namespace FreshIndex

/-- The first options ask for less than the second, or for the same. Case counts in both alike. -/
structure PatternOptions.Relaxes (looser options : PatternOptions) : Prop where
  ignoreCase : looser.ignoreCase = options.ignoreCase
  anchorStart : looser.anchorStart = true → options.anchorStart = true
  anchorEnd : looser.anchorEnd = true → options.anchorEnd = true
  subsequence : options.subsequence = true → looser.subsequence = true

namespace Pattern

variable {options looser : PatternOptions} {pattern name : List Char}

theorem occursIn_iff_isInfix : occursIn pattern name = true ↔ pattern <:+: name := by
  induction name with
  | nil => simp [occursIn]
  | cons c rest ih =>
    rw [occursIn, Bool.or_eq_true, List.isPrefixOf_iff_prefix, ih, List.infix_cons_iff]

/-- Without gaps, a name is the pattern with something on those sides that are not anchored. -/
theorem isPartOf_iff : isPartOf options pattern name = true ↔
    ∃ before after, name = before ++ pattern ++ after ∧
      (options.anchorStart = true → before = []) ∧ (options.anchorEnd = true → after = []) := by
  unfold isPartOf
  cases options.anchorStart with
  | true =>
    cases options.anchorEnd with
    | true => simp
    | false =>
      simp only [List.isPrefixOf_iff_prefix, forall_const, Bool.false_eq_true, false_implies,
        and_true]
      constructor
      . rintro ⟨after, rfl⟩
        exact ⟨[], after, rfl, rfl⟩
      . rintro ⟨_, after, rfl, rfl⟩
        exact ⟨after, rfl⟩
  | false =>
    cases options.anchorEnd with
    | true =>
      simp only [List.isSuffixOf_iff_suffix, forall_const, Bool.false_eq_true, false_implies,
        true_and]
      constructor
      . rintro ⟨before, rfl⟩
        exact ⟨before, [], (List.append_nil _).symm, rfl⟩
      . rintro ⟨before, _, rfl, rfl⟩
        exact ⟨before, (List.append_nil _).symm⟩
    | false =>
      simp only [occursIn_iff_isInfix, Bool.false_eq_true, false_implies, and_true]
      constructor
      . rintro ⟨before, after, rfl⟩
        exact ⟨before, after, rfl⟩
      . rintro ⟨before, after, rfl⟩
        exact ⟨before, after, rfl⟩

/-- What is there without gaps is there as a subsequence, with the same ends. -/
theorem fits_of_isPartOf (hne : pattern ≠ []) (h : isPartOf options pattern name = true) :
    Fits options pattern name := by
  obtain ⟨before, after, rfl, hstart, hend⟩ := isPartOf_iff.mp h
  refine ⟨?_, ?_, ?_⟩
  . rw [List.append_assoc]
    exact (List.sublist_append_left pattern after).trans (List.sublist_append_right before _)
  . intro hanchor
    rw [hstart hanchor, List.nil_append]
    exact List.head?_append_of_ne_nil pattern hne
  . intro hanchor
    rw [hend hanchor, List.append_nil]
    exact List.getLast?_append_of_ne_nil before hne

theorem isPartOf_of_relaxes (hlooser : looser.Relaxes options)
    (h : isPartOf options pattern name = true) : isPartOf looser pattern name = true := by
  obtain ⟨before, after, hname, hstart, hend⟩ := isPartOf_iff.mp h
  refine isPartOf_iff.mpr ⟨before, after, hname, ?_, ?_⟩
  . intro hanchor
    exact hstart (hlooser.anchorStart hanchor)
  . intro hanchor
    exact hend (hlooser.anchorEnd hanchor)

theorem Fits.of_relaxes (hlooser : looser.Relaxes options) (h : Fits options pattern name) :
    Fits looser pattern name where
  sublist := h.sublist
  start hanchor := h.start (hlooser.anchorStart hanchor)
  stop hanchor := h.stop (hlooser.anchorEnd hanchor)

theorem isFoundIn_of_relaxes (hne : pattern ≠ []) (hlooser : looser.Relaxes options)
    (h : isFoundIn options pattern name = true) : isFoundIn looser pattern name = true := by
  unfold isFoundIn at h ⊢
  cases hgaps : options.subsequence with
  | true =>
    rw [hgaps, if_pos rfl, isSubsequenceOf_iff hne] at h
    rw [hlooser.subsequence hgaps, if_pos rfl, isSubsequenceOf_iff hne]
    exact h.of_relaxes hlooser
  | false =>
    rw [hgaps, if_neg Bool.false_ne_true] at h
    split
    . rw [isSubsequenceOf_iff hne]
      exact (fits_of_isPartOf hne h).of_relaxes hlooser
    . exact isPartOf_of_relaxes hlooser h

theorem accepts_iff (options : PatternOptions) (s t : String) :
    accepts options s t = true ↔
      s = "" ∨ isFoundIn options (letters options s) (letters options t) = true := by
  unfold accepts letters
  by_cases hempty : s = ""
  . simp [hempty]
  . rw [if_neg (by simpa using hempty)]
    split <;> simp [hempty]

theorem letters_of_relaxes (hlooser : looser.Relaxes options) :
    letters looser = letters options := by
  unfold letters
  rw [hlooser.ignoreCase]

/--
A name that is accepted stays accepted if ends are no longer anchored, if there may be gaps, or
both. In particular, what is found without gaps is found as a subsequence with the same anchors.
-/
theorem accepts_of_relaxes (hlooser : looser.Relaxes options) (pattern name : String)
    (haccepts : accepts options pattern name = true) : accepts looser pattern name = true := by
  rw [accepts_iff] at haccepts ⊢
  by_cases hempty : pattern = ""
  . exact .inl hempty
  . have hfound := haccepts.resolve_left hempty
    rw [letters_of_relaxes hlooser]
    exact .inr (isFoundIn_of_relaxes (letters_ne_nil hempty) hlooser hfound)

/-- In lower case, the first character of the pattern is two characters. -/
theorem accepts_dottedCapital_of_suffix :
    PatternOptions.Relaxes ⟨false, false, true, true⟩ ⟨false, true, false, true⟩ ∧
      accepts ⟨false, true, false, true⟩ "İN" "MAİN" = true ∧
      accepts ⟨false, false, true, true⟩ "İN" "MAİN" = true := by
  have hlooser : PatternOptions.Relaxes ⟨false, false, true, true⟩ ⟨false, true, false, true⟩ :=
    ⟨rfl, nofun, nofun, nofun⟩
  have haccepts : accepts ⟨false, true, false, true⟩ "İN" "MAİN" = true := by
    decide +kernel
  exact ⟨hlooser, haccepts, accepts_of_relaxes hlooser "İN" "MAİN" haccepts⟩

end Pattern

end FreshIndex
