import FreshIndex.Proofs.Pattern.Relaxation

/-!
This module contains when a search finds no less if case makes no difference. Pattern and name are
brought to lower case each on its own, so a sigma of the pattern that ends a word there may be found
where it ends none, or the other way round; then the name is lost. Nothing but a sigma does this.
-/

namespace FreshIndex.Pattern

open Text Text.LowerCase

variable {options : PatternOptions} {pattern name before after : List Char}

/--
Whether a sigma between `before` and `after` in a pattern ends a word in the pattern if and only if
it does so in every name, wherever the pattern is found there. Without gaps, what follows in the
name is looked at if `after` tells nothing, and what precedes if `before` tells nothing. Where there
may be gaps, only a sigma at the anchored start of the name is sure to end no word, and this is of
use if it need not be the last character too.
-/
def KeepsSigma (options : PatternOptions) (before after : List Char) : Prop :=
  if options.subsequence then
    options.anchorStart = true ∧ before = [] ∧ (options.anchorEnd = true → after ≠ [])
  else
    (options.anchorEnd = false → isOpen after = true → meetsCased before.reverse = false) ∧
      (options.anchorStart = false → isOpen before = true → meetsCased after = true)

def IsSteady (options : PatternOptions) (pattern : List Char) : Prop :=
  ∀ before after, pattern = before ++ 'Σ' :: after → KeepsSigma options before after

/-! ### What is found is found in lower case -/

/-- Without gaps, a sigma ends a word in the name if and only if it does in the pattern. -/
theorem endsWord_of_keepsSigma {left right : List Char} (hgaps : options.subsequence = false)
    (hkeeps : KeepsSigma options before after) (hstart : options.anchorStart = true → left = [])
    (hend : options.anchorEnd = true → right = []) :
    endsWord (before.reverse ++ left) (after ++ right) = endsWord before.reverse after := by
  rw [KeepsSigma, hgaps, if_neg Bool.false_ne_true] at hkeeps
  obtain ⟨hafter, hbefore⟩ := hkeeps
  unfold endsWord
  rw [meetsCased_append, meetsCased_append, isOpen_reverse]
  cases hopen : isOpen before with
  | true =>
    have hnone : meetsCased before.reverse = false := by
      apply meetsCased_of_isOpen
      rw [isOpen_reverse]
      exact hopen
    rw [if_pos rfl, hnone, Bool.false_and]
    cases hanchor : options.anchorStart with
    | true =>
      rw [hstart hanchor]
      rfl
    | false =>
      have hcased := hbefore hanchor hopen
      have hclosed : isOpen after = false := by
        cases h : isOpen after with
        | false => rfl
        | true =>
          rw [meetsCased_of_isOpen h] at hcased
          cases hcased
      rw [hclosed, if_neg Bool.false_ne_true, hcased, Bool.not_true, Bool.and_false]
  | false =>
    rw [if_neg Bool.false_ne_true]
    cases hopen' : isOpen after with
    | false => rw [if_neg Bool.false_ne_true]
    | true =>
      rw [if_pos rfl, meetsCased_of_isOpen hopen']
      cases hanchor : options.anchorEnd with
      | true =>
        rw [hend hanchor]
        rfl
      | false => rw [hafter hanchor hopen', Bool.false_and, Bool.false_and]

theorem isPartOf_amid (hgaps : options.subsequence = false) (hsteady : IsSteady options pattern)
    (h : isPartOf options pattern name = true) :
    isPartOf options (amid [] pattern []) (amid [] name []) = true := by
  obtain ⟨left, right, rfl, hstart, hend⟩ := isPartOf_iff.mp h
  have hpattern : amid left.reverse pattern right = amid [] pattern [] := by
    apply amid_congr
    intro u v huv
    rw [List.append_nil, List.append_nil]
    apply endsWord_of_keepsSigma hgaps (hsteady u v huv)
    . intro hanchor
      rw [hstart hanchor, List.reverse_nil]
    . exact hend
  refine isPartOf_iff.mpr ⟨amid [] left (pattern ++ right),
    amid (pattern.reverse ++ left.reverse) right [], ?_, ?_, ?_⟩
  . rw [List.append_assoc, amid_append, amid_append, List.append_nil, List.append_nil,
      List.append_nil, hpattern, List.append_assoc]
  . intro hanchor
    rw [hstart hanchor]
    rfl
  . intro hanchor
    rw [hend hanchor]
    rfl

/-- Where there may be gaps, all sigmas but the first character are excluded. -/
theorem noSigma_of_isSteady {c : Char} {rest : List Char} (hgaps : options.subsequence = true)
    (hsteady : IsSteady options (c :: rest)) : 'Σ' ∉ rest := by
  intro hmem
  obtain ⟨u, v, rfl⟩ := List.append_of_mem hmem
  have hkeeps := hsteady (c :: u) v rfl
  rw [KeepsSigma, hgaps, if_pos rfl] at hkeeps
  cases hkeeps.2.1

theorem getLast?_amid {c : Char} (hc : c ≠ 'Σ') (cs : List Char) :
    (amid [] (cs ++ [c]) []).getLast? = (ofChar c).getLast? := by
  rw [amid_append, amid, amid, List.append_nil, List.append_nil, ofCharAmid_of_ne hc]
  exact List.getLast?_append_of_ne_nil _ (ofChar_ne_nil c)

theorem fits_amid (hne : pattern ≠ []) (hgaps : options.subsequence = true)
    (hsteady : IsSteady options pattern) (h : Fits options pattern name) :
    Fits options (amid [] pattern []) (amid [] name []) := by
  obtain ⟨c, rest, rfl⟩ := List.exists_cons_of_ne_nil hne
  have hrest := noSigma_of_isSteady hgaps hsteady
  obtain ⟨hsublist, hstart, hend⟩ := h
  refine ⟨?_, ?_, ?_⟩
  . cases hanchor : options.anchorStart with
    | true =>
      cases name with
      | nil => cases hstart hanchor
      | cons d name =>
        cases hstart hanchor
        rw [amid, amid, amid_of_noSigma hrest, ofCharAmid_nil c _ (name ++ [])]
        exact (List.Sublist.refl _).append
          (flatMap_sublist_amid (List.cons_sublist_cons.mp hsublist) hrest _ _)
    | false =>
      have hall : 'Σ' ∉ c :: rest := by
        intro hmem
        obtain ⟨u, v, huv⟩ := List.append_of_mem hmem
        have hkeeps := hsteady u v huv
        rw [KeepsSigma, hgaps, if_pos rfl, hanchor] at hkeeps
        cases hkeeps.1
      rw [amid_of_noSigma hall]
      exact flatMap_sublist_amid hsublist hall _ _
  . intro hanchor
    cases name with
    | nil => cases hstart hanchor
    | cons d name =>
      cases hstart hanchor
      rw [amid, amid, ofCharAmid_nil c _ (rest ++ []),
        List.head?_append_of_ne_nil _ (ofCharAmid_ne_nil _ _ _),
        List.head?_append_of_ne_nil _ (ofCharAmid_ne_nil _ _ _)]
  . intro hanchor
    rcases List.eq_nil_or_concat (c :: rest) with hnil | ⟨before, last, hlast⟩
    . cases hnil
    . rw [List.concat_eq_append] at hlast
      have hsigma : last ≠ 'Σ' := by
        rintro rfl
        have hkeeps := hsteady before [] hlast
        rw [KeepsSigma, hgaps, if_pos rfl] at hkeeps
        exact hkeeps.2.2 hanchor rfl
      have hsame := hend hanchor
      rw [hlast, List.getLast?_concat] at hsame
      obtain ⟨before', rfl⟩ := List.getLast?_eq_some_iff.mp hsame
      rw [hlast, getLast?_amid hsigma, getLast?_amid hsigma]

/-! ### What is lost -/

/-- What is found stays found if case makes no difference. -/
def Widens (options : PatternOptions) (pattern : List Char) : Prop :=
  ∀ name, isFoundIn options pattern name = true →
    isFoundIn options (amid [] pattern []) (amid [] name []) = true

theorem sublist_of_isFoundIn (hne : pattern ≠ []) (h : isFoundIn options pattern name = true) :
    pattern.Sublist name := by
  unfold isFoundIn at h
  split at h
  . exact ((isSubsequenceOf_iff hne).mp h).sublist
  . exact (fits_of_isPartOf hne h).sublist

/-- The lower case of a sigma that ends a word, or of one that does not. -/
def sigma (endsWord : Bool) : Char :=
  if endsWord then 'ς' else 'σ'

theorem sigma_ne_sigma_not (endsWord : Bool) : sigma (!endsWord) ≠ sigma endsWord := by
  cases endsWord <;> decide

theorem amid_sigma (before cs cs' after : List Char) :
    amid before (cs ++ 'Σ' :: cs') after
      = amid before cs ('Σ' :: (cs' ++ after)) ++
        sigma (endsWord (cs.reverse ++ before) (cs' ++ after)) ::
          amid ('Σ' :: (cs.reverse ++ before)) cs' after := by
  rw [amid_append, amid, List.cons_append]
  congr 1
  unfold ofCharAmid sigma
  rw [if_pos rfl]
  split <;> rfl

/-- In front of a sigma, nothing depends on what stands behind it. -/
theorem amid_before_sigma {c : Char} (hignorable : isCaseIgnorable c = false)
    (hcased : isCased c = true) (before cs rest rest' : List Char) :
    amid before cs ('Σ' :: rest) = amid before cs (c :: rest') := by
  apply amid_congr
  intro u v _
  unfold endsWord
  rw [meetsCased_append_sigma hignorable hcased v rest rest']

/-- Behind a sigma, nothing depends on what stands in front of it. -/
theorem amid_after_sigma (cs before before' after : List Char) :
    amid ('Σ' :: before) cs after = amid ('Σ' :: before') cs after := by
  apply amid_congr
  intro u v _
  unfold endsWord
  rw [meetsCased_append_sigma isCaseIgnorable_sigma isCased_sigma u.reverse before before']

/-- A character that a sigma stops at: a letter, or none. -/
def spacer (isLetter : Bool) : Char :=
  if isLetter then 'A' else ' '

theorem isCaseIgnorable_spacer (isLetter : Bool) : isCaseIgnorable (spacer isLetter) = false := by
  rw [isCaseIgnorable, Ranges.contains_eq_any]
  cases isLetter <;> decide +kernel

theorem isCased_spacer (isLetter : Bool) : isCased (spacer isLetter) = isLetter := by
  rw [isCased, Ranges.contains_eq_any]
  cases isLetter <;> decide +kernel

theorem ofChar_spacer (isLetter : Bool) :
    ofChar (spacer isLetter) = [if isLetter then 'a' else ' '] := by
  unfold ofChar
  rw [← Array.findSome?_toList]
  cases isLetter <;> decide +kernel

theorem meetsCased_spacer (isLetter : Bool) (rest : List Char) :
    meetsCased (spacer isLetter :: rest) = isLetter := by
  rw [meetsCased_cons (isCaseIgnorable_spacer isLetter), isCased_spacer]

theorem spacer_ne_sigma (isLetter : Bool) : spacer isLetter ≠ 'Σ' := by
  cases isLetter <;> decide

theorem count_sigma_spacer (endsWord isLetter : Bool) :
    (ofChar (spacer isLetter)).count (sigma endsWord) = 0 := by
  rw [ofChar_spacer]
  cases endsWord <;> cases isLetter <;> decide

/--
In lower case, a pattern is not found in a name that differs from it in what becomes of one sigma,
and by spacers.
-/
theorem Widens.not_changed {xs ys front inner inner' back : List Char} {endsWord : Bool}
    (hwidens : Widens options pattern) (hne : pattern ≠ [])
    (hfound : isFoundIn options pattern name = true)
    (hpattern : amid [] pattern [] = xs ++ sigma endsWord :: ys)
    (hname : amid [] name [] = front ++ xs ++ inner ++ sigma (!endsWord) :: (inner' ++ ys ++ back))
    (hspacers : (front ++ inner ++ inner' ++ back).count (sigma endsWord) = 0) : False := by
  have hle : (amid [] pattern []).count (sigma endsWord)
      ≤ (amid [] name []).count (sigma endsWord) :=
    (sublist_of_isFoundIn (amid_ne_nil hne) (hwidens name hfound)).count_le _
  rw [hpattern, hname] at hle
  simp only [List.count_append, List.count_cons_self,
    List.count_cons_of_ne (sigma_ne_sigma_not endsWord)] at hle hspacers
  omega

namespace Widens

variable (hwidens : Widens options (before ++ 'Σ' :: after))

include hwidens

/-- A letter behind the pattern makes that its last sigma does not end a word in the name. -/
theorem not_meetsCased_before (hgaps : options.subsequence = false)
    (hanchor : options.anchorEnd = false) (hopen : isOpen after = true) :
    meetsCased before.reverse = false := by
  by_contra hcased
  rw [Bool.not_eq_false] at hcased
  have hfound : isFoundIn options (before ++ 'Σ' :: after)
      (before ++ 'Σ' :: (after ++ [spacer true])) = true := by
    unfold isFoundIn
    rw [hgaps, if_neg Bool.false_ne_true, isPartOf_iff]
    exact ⟨[], [spacer true], by simp, fun _ => rfl, by simp [hanchor]⟩
  have hafter : 'Σ' ∉ after := noSigma_of_isOpen hopen
  have hpattern : amid [] (before ++ 'Σ' :: after) []
      = amid [] before ['Σ'] ++ sigma true :: after.flatMap ofChar := by
    rw [amid_sigma, amid_of_noSigma hafter, List.append_nil, List.append_nil, endsWord, hcased,
      meetsCased_of_isOpen hopen,
      amid_before_sigma isCaseIgnorable_sigma isCased_sigma [] before after []]
    rfl
  have hname : amid [] (before ++ 'Σ' :: (after ++ [spacer true])) []
      = [] ++ amid [] before ['Σ'] ++ [] ++
        sigma false :: ([] ++ after.flatMap ofChar ++ ofChar (spacer true)) := by
    have hafter' : 'Σ' ∉ after ++ [spacer true] := by
      simp [hafter, (spacer_ne_sigma true).symm]
    rw [amid_sigma, amid_of_noSigma hafter', List.append_nil, List.append_nil, endsWord, hcased,
      meetsCased_append, hopen, if_pos rfl, meetsCased_spacer, List.flatMap_append,
      List.flatMap_singleton,
      amid_before_sigma isCaseIgnorable_sigma isCased_sigma [] before (after ++ [spacer true]) []]
    simp
  exact hwidens.not_changed (by simp) hfound hpattern hname (by simp [count_sigma_spacer])

/-- A letter in front of the pattern makes that its first sigma ends a word in the name. -/
theorem meetsCased_after (hgaps : options.subsequence = false)
    (hanchor : options.anchorStart = false) (hopen : isOpen before = true) :
    meetsCased after = true := by
  by_contra hcased
  rw [Bool.not_eq_true] at hcased
  have hfound : isFoundIn options (before ++ 'Σ' :: after)
      (spacer true :: before ++ 'Σ' :: after) = true := by
    unfold isFoundIn
    rw [hgaps, if_neg Bool.false_ne_true, isPartOf_iff]
    exact ⟨[spacer true], [], by simp, by simp [hanchor], fun _ => rfl⟩
  have hbefore : 'Σ' ∉ before := noSigma_of_isOpen hopen
  have hpattern : amid [] (before ++ 'Σ' :: after) []
      = before.flatMap ofChar ++ sigma false :: amid ['Σ'] after [] := by
    rw [amid_sigma, amid_of_noSigma hbefore, endsWord, List.append_nil,
      meetsCased_of_isOpen (isOpen_reverse before ▸ hopen), amid_after_sigma after _ []]
    rfl
  have hname : amid [] (spacer true :: before ++ 'Σ' :: after) []
      = ofChar (spacer true) ++ before.flatMap ofChar ++ [] ++
        sigma true :: ([] ++ amid ['Σ'] after [] ++ []) := by
    have hbefore' : 'Σ' ∉ spacer true :: before := by
      simp [hbefore, (spacer_ne_sigma true).symm]
    rw [amid_sigma, amid_of_noSigma hbefore', endsWord, List.append_nil, List.append_nil, hcased,
      List.reverse_cons, meetsCased_append, isOpen_reverse, hopen, if_pos rfl, meetsCased_spacer,
      List.flatMap_cons, amid_after_sigma after _ []]
    simp
  exact hwidens.not_changed (by simp) hfound hpattern hname (by simp [count_sigma_spacer])

/-- Where there may be gaps, spacers around the last sigma decide whether it ends a word. -/
theorem isFirst (hgaps : options.subsequence = true) (hlast : 'Σ' ∉ after)
    (hend : options.anchorEnd = true → after ≠ []) :
    options.anchorStart = true ∧ before = [] := by
  by_contra hfree
  let isEnd := endsWord before.reverse after
  have hfound : isFoundIn options (before ++ 'Σ' :: after)
      (before ++ [spacer true] ++ 'Σ' :: spacer isEnd :: after) = true := by
    unfold isFoundIn
    rw [hgaps, if_pos rfl, isSubsequenceOf_iff (by simp)]
    refine ⟨?_, ?_, ?_⟩
    . exact (List.sublist_append_left before _).append
        ((List.sublist_cons_self _ after).cons_cons _)
    . intro hanchor
      have hne : before ≠ [] := fun hnil => hfree ⟨hanchor, hnil⟩
      rw [List.append_assoc, List.head?_append_of_ne_nil before hne,
        List.head?_append_of_ne_nil before hne]
    . intro hanchor
      change (before ++ [spacer true] ++ (['Σ', spacer isEnd] ++ after)).getLast?
        = (before ++ (['Σ'] ++ after)).getLast?
      rw [← List.append_assoc, ← List.append_assoc,
        List.getLast?_append_of_ne_nil _ (hend hanchor),
        List.getLast?_append_of_ne_nil _ (hend hanchor)]
  have hpattern : amid [] (before ++ 'Σ' :: after) []
      = amid [] before ['Σ'] ++ sigma isEnd :: after.flatMap ofChar := by
    rw [amid_sigma, amid_of_noSigma hlast, List.append_nil, List.append_nil,
      amid_before_sigma isCaseIgnorable_sigma isCased_sigma [] before after []]
  have hname : amid [] (before ++ [spacer true] ++ 'Σ' :: spacer isEnd :: after) []
      = [] ++ amid [] before ['Σ'] ++ ofChar (spacer true) ++
        sigma (!isEnd) :: (ofChar (spacer isEnd) ++ after.flatMap ofChar ++ []) := by
    have hlast' : 'Σ' ∉ spacer isEnd :: after := by
      simp [hlast, (spacer_ne_sigma isEnd).symm]
    rw [amid_sigma, amid_of_noSigma hlast', endsWord, List.reverse_append, List.reverse_singleton,
      List.singleton_append, List.cons_append, List.cons_append, meetsCased_spacer,
      meetsCased_spacer, Bool.true_and, amid_append, amid, amid, List.append_nil,
      ofCharAmid_of_ne (spacer_ne_sigma true), List.flatMap_cons, List.singleton_append,
      ← amid_before_sigma (isCaseIgnorable_spacer true) (isCased_spacer true) [] before []]
    simp
  exact hwidens.not_changed (by simp) hfound hpattern hname (by simp [count_sigma_spacer])

end Widens

/-- At the anchored end of a name, a spacer before the sigma decides whether it ends a word. -/
theorem Widens.getLast?_ne (hgaps : options.subsequence = true)
    (hanchor : options.anchorEnd = true) (hwidens : Widens options pattern) :
    pattern.getLast? ≠ some 'Σ' := by
  intro hlast
  obtain ⟨before, rfl⟩ := List.getLast?_eq_some_iff.mp hlast
  let isEnd := endsWord before.reverse []
  have hfound : isFoundIn options (before ++ ['Σ'])
      (before ++ ['Σ'] ++ [spacer (!isEnd)] ++ ['Σ']) = true := by
    unfold isFoundIn
    rw [hgaps, if_pos rfl, isSubsequenceOf_iff (by simp)]
    refine ⟨?_, ?_, ?_⟩
    . rw [List.append_assoc]
      exact List.sublist_append_left _ _
    . intro _
      rw [List.append_assoc, List.head?_append_of_ne_nil _ (by simp)]
    . intro _
      rw [List.getLast?_concat, List.getLast?_concat]
  have hfits := hwidens _ hfound
  unfold isFoundIn at hfits
  rw [hgaps, if_pos rfl, isSubsequenceOf_iff (amid_ne_nil (by simp))] at hfits
  have hsame := hfits.stop hanchor
  rw [amid_sigma, amid_sigma, amid, amid, List.getLast?_concat, List.getLast?_concat, endsWord,
    List.reverse_append, List.reverse_singleton, List.singleton_append, List.cons_append,
    meetsCased_spacer, List.append_nil, List.append_nil, meetsCased_nil, Bool.not_false,
    Bool.and_true, Option.some.injEq] at hsame
  exact sigma_ne_sigma_not isEnd hsame

theorem exists_last_of_mem {c : Char} {cs : List Char} (h : c ∈ cs) :
    ∃ before after, cs = before ++ c :: after ∧ c ∉ after := by
  obtain ⟨after, before, hcs, hafter⟩ := List.eq_append_cons_of_mem (List.mem_reverse.mpr h)
  refine ⟨before.reverse, after.reverse, ?_, by simpa using hafter⟩
  rw [← List.reverse_reverse cs, hcs]
  simp

theorem isSteady_of_widens (hwidens : Widens options pattern) : IsSteady options pattern := by
  intro before after hpattern
  unfold KeepsSigma
  cases hgaps : options.subsequence with
  | false =>
    subst hpattern
    rw [if_neg Bool.false_ne_true]
    exact ⟨hwidens.not_meetsCased_before hgaps, hwidens.meetsCased_after hgaps⟩
  | true =>
    rw [if_pos rfl]
    -- It is enough to look at the last sigma: if it comes first, there is no other.
    have hmem : 'Σ' ∈ pattern := by simp [hpattern]
    obtain ⟨u, v, hlast, hv⟩ := exists_last_of_mem hmem
    have hend : options.anchorEnd = true → v ≠ [] := by
      rintro hanchor rfl
      apply hwidens.getLast?_ne hgaps hanchor
      rw [hlast, List.getLast?_concat]
    have hwidens' := hwidens
    rw [hlast] at hwidens'
    obtain ⟨hanchor, rfl⟩ := hwidens'.isFirst hgaps hv hend
    rw [hpattern] at hlast
    cases before with
    | nil =>
      cases hlast
      exact ⟨hanchor, rfl, hend⟩
    | cons c before =>
      obtain ⟨_, rfl⟩ := List.cons.inj hlast
      exact absurd (by simp) hv

theorem widens_of_isSteady (hne : pattern ≠ []) (hsteady : IsSteady options pattern) :
    Widens options pattern := by
  intro name hfound
  unfold isFoundIn at hfound ⊢
  cases hgaps : options.subsequence with
  | false =>
    rw [hgaps, if_neg Bool.false_ne_true] at hfound
    rw [if_neg Bool.false_ne_true]
    exact isPartOf_amid hgaps hsteady hfound
  | true =>
    rw [hgaps, if_pos rfl, isSubsequenceOf_iff hne] at hfound
    rw [if_pos rfl, isSubsequenceOf_iff (amid_ne_nil hne)]
    exact fits_amid hne hgaps hsteady hfound

theorem accepts_case_iff (options : PatternOptions) (s t : String) :
    accepts { options with ignoreCase := false } s t = true ↔
      s = "" ∨ isFoundIn options s.toList t.toList = true :=
  accepts_iff { options with ignoreCase := false } s t

theorem accepts_ignoringCase_iff (options : PatternOptions) (s t : String) :
    accepts { options with ignoreCase := true } s t = true ↔
      s = "" ∨ isFoundIn options (amid [] s.toList []) (amid [] t.toList []) = true := by
  rw [← toList_lowerCase, ← toList_lowerCase]
  exact accepts_iff { options with ignoreCase := true } s t

/--
No name is lost when case makes no difference, if and only if the pattern is steady: its sigmas end
words in the pattern as they do in every name. In particular no name is lost by a pattern without
capital sigma, nor by one that is compared with whole names.
-/
theorem ignoringCase_widens_iff (options : PatternOptions) (pattern : String) :
    (∀ name, accepts { options with ignoreCase := false } pattern name = true →
      accepts { options with ignoreCase := true } pattern name = true) ↔
    IsSteady options pattern.toList := by
  by_cases hempty : pattern = ""
  . subst hempty
    constructor
    . intro _ before after hnil
      simp at hnil
    . intro _ name _
      exact (accepts_ignoringCase_iff options "" name).mpr (.inl rfl)
  . have hne : pattern.toList ≠ [] := fun hnil => hempty (String.toList_eq_nil_iff.mp hnil)
    constructor
    . intro h
      apply isSteady_of_widens
      intro name hfound
      have hfound' := h (String.ofList name)
      rw [accepts_case_iff, accepts_ignoringCase_iff, String.toList_ofList] at hfound'
      exact (hfound' (.inr hfound)).resolve_left hempty
    . intro hsteady name haccepts
      rw [accepts_case_iff] at haccepts
      rw [accepts_ignoringCase_iff]
      exact .inr (widens_of_isSteady hne hsteady _ (haccepts.resolve_left hempty))

/-- The sigma ends a word in the pattern, but not in the name. -/
theorem ignoringCase_losesSigma :
    accepts ⟨false, false, false, false⟩ "AΣ" "AΣA" = true ∧
      accepts ⟨false, false, false, true⟩ "AΣ" "AΣA" = false := by
  refine ⟨by decide +kernel, ?_⟩
  have hpattern : amid [] "AΣ".toList [] = ['a', 'ς'] := by
    change amid [] ([spacer true] ++ 'Σ' :: []) [] = _
    rw [amid_sigma, amid, amid, amid, ofCharAmid_of_ne (spacer_ne_sigma true), ofChar_spacer]
    simp [endsWord, meetsCased_spacer, meetsCased_nil, sigma]
  have hname : amid [] "AΣA".toList [] = ['a', 'σ', 'a'] := by
    change amid [] ([spacer true] ++ 'Σ' :: [spacer true]) [] = _
    rw [amid_sigma, amid, amid, amid, amid, ofCharAmid_of_ne (spacer_ne_sigma true),
      ofCharAmid_of_ne (spacer_ne_sigma true), ofChar_spacer]
    simp [endsWord, meetsCased_spacer, sigma]
  rw [Bool.eq_false_iff, Ne, accepts_ignoringCase_iff ⟨false, false, false, false⟩, hpattern, hname]
  decide

end FreshIndex.Pattern
