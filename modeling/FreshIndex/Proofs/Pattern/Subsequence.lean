import Mathlib.Data.List.NodupEquivFin
import FreshIndex.Pattern
import FreshIndex.Proofs.Text.LowerCase

/-!
This module contains when a pattern is found in a name as a subsequence: its characters are there in
order, and where it is anchored, the ends of both are the same. The search goes by places in pattern
and name, never asks for a part that is not there, and takes the first place for every character.
-/

namespace FreshIndex.Pattern

variable {options : PatternOptions} {pattern name : List Char}

/-! ### The search by places -/

/-- What stands from `start` up to `stop`, if these are places of the text in this order. -/
def slice? (cs : List Char) (start stop : Nat) : Option (List Char) :=
  if start ≤ stop ∧ stop ≤ cs.length then some ((cs.take stop).drop start) else none

/-- Looks for characters in turn, each behind the first place of the one before it. -/
def occurInOrder : (needle haystack : List Char) → Bool
  | [], _ => true
  | c :: needle, haystack =>
    match haystack.dropWhile (· != c) with
    | [] => false
    | _ :: rest => occurInOrder needle rest

/-- The number of characters in front that are compared on their own. -/
def startOf (options : PatternOptions) : Nat :=
  if options.anchorStart then 1 else 0

/--
The search for a subsequence by places. The places next to an anchored end are left out of what is
searched for and of what is searched. There is no result if a part is asked for that is not there.
-/
def searchByPlace? (options : PatternOptions) (pattern name : List Char) : Option Bool :=
  let start := startOf options
  let cutsEnd := options.anchorEnd && decide (start < pattern.length)
  let before (stop : Nat) : Nat := if cutsEnd then stop - 1 else stop
  if options.anchorStart && name.head? != pattern.head? then some false
  else if options.anchorEnd && name.getLast? != pattern.getLast? then some false
  else if cutsEnd && decide (name.length ≤ start) then some false
  else do
    let needle ← slice? pattern start (before pattern.length)
    let haystack ← slice? name start (max (before name.length) start)
    return occurInOrder needle haystack

theorem slice?_eq {cs : List Char} {start stop : Nat} (hstart : start ≤ stop)
    (hstop : stop ≤ cs.length) :
    slice? cs start stop = some ((cs.drop start).take (stop - start)) := by
  rw [slice?, if_pos ⟨hstart, hstop⟩, List.drop_take]

/-- To take the first place for every character loses no way to find the rest. -/
theorem occurInOrder_iff (needle haystack : List Char) :
    occurInOrder needle haystack = true ↔ needle.Sublist haystack := by
  induction needle generalizing haystack with
  | nil => simp [occurInOrder]
  | cons c needle ih =>
    induction haystack with
    | nil => simp [occurInOrder]
    | cons d haystack ihs =>
      by_cases hsame : d = c
      . subst hsame
        rw [occurInOrder, List.dropWhile_cons_of_neg (by simp), List.cons_sublist_cons]
        exact ih haystack
      . have hskip : occurInOrder (c :: needle) (d :: haystack)
            = occurInOrder (c :: needle) haystack := by
          rw [occurInOrder, occurInOrder, List.dropWhile_cons_of_pos (by simpa using hsame)]
        rw [hskip, ihs, List.sublist_cons_iff]
        simp [Ne.symm hsame]

theorem occurInOrder_eq_isSublist (needle haystack : List Char) :
    occurInOrder needle haystack = needle.isSublist haystack := by
  rw [Bool.eq_iff_iff, occurInOrder_iff, List.isSublist_iff_sublist]

theorem drop_startOf (options : PatternOptions) (cs : List Char) :
    (if options.anchorStart then cs.drop 1 else cs) = cs.drop (startOf options) := by
  unfold startOf
  split <;> rfl

theorem slice?_dropLast {cs : List Char} {start : Nat} (h : start < cs.length) :
    slice? cs start (cs.length - 1) = some (cs.drop start).dropLast := by
  rw [slice?_eq (by omega) (by omega), List.dropLast_eq_take, List.length_drop]
  congr 2
  omega

theorem slice?_drop {cs : List Char} {start : Nat} (h : start ≤ cs.length) :
    slice? cs start cs.length = some (cs.drop start) := by
  rw [slice?_eq h (Nat.le_refl _), List.take_of_length_le (by simp)]

/-- A name whose first character is that of the pattern has a first character. -/
theorem startOf_le_length (hne : pattern ≠ [])
    (hstart : ¬(options.anchorStart && name.head? != pattern.head?) = true) :
    startOf options ≤ pattern.length ∧ startOf options ≤ name.length := by
  unfold startOf
  cases pattern with
  | nil => cases hne rfl
  | cons c rest =>
    cases hanchor : options.anchorStart with
    | false => simp
    | true =>
      cases name with
      | nil => simp [hanchor] at hstart
      | cons d name => simp

/-- No part is asked for that is not there, and the result is the one of the search by lists. -/
theorem searchByPlace?_eq (hne : pattern ≠ []) :
    searchByPlace? options pattern name = some (isSubsequenceOf options pattern name) := by
  unfold searchByPlace? isSubsequenceOf
  rw [drop_startOf, drop_startOf]
  dsimp only
  by_cases hstart : (options.anchorStart && name.head? != pattern.head?) = true
  . rw [if_pos hstart]
    simp_all
  . rw [if_neg hstart]
    by_cases hend : (options.anchorEnd && name.getLast? != pattern.getLast?) = true
    . rw [if_pos hend]
      simp_all
    . have hwell : (!options.anchorStart || name.head? == pattern.head?) = true ∧
          (!options.anchorEnd || name.getLast? == pattern.getLast?) = true := by
        constructor
        . cases hanchor : options.anchorStart <;> simp_all
        . cases hanchor : options.anchorEnd <;> simp_all
      obtain ⟨hpattern, hname⟩ := startOf_le_length hne hstart
      rw [if_neg hend, hwell.1, hwell.2, Bool.true_and, Bool.true_and]
      -- What is left of the pattern in front of its last character is cut as the name is.
      have hleft : (!(pattern.drop (startOf options)).isEmpty)
          = decide (startOf options < pattern.length) := by
        rw [Bool.eq_iff_iff]
        simp
      have hleft' : (!(name.drop (startOf options)).isEmpty)
          = decide (startOf options < name.length) := by
        rw [Bool.eq_iff_iff]
        simp
      rw [hleft, hleft']
      by_cases hcut : (options.anchorEnd && decide (startOf options < pattern.length)) = true
      . rw [if_pos hcut, if_pos hcut, if_pos hcut, hcut, Bool.true_and]
        have hlonger : startOf options < pattern.length := by
          simp at hcut
          exact hcut.2
        by_cases hshort : startOf options < name.length
        . rw [if_neg (by simpa using hshort), slice?_dropLast hlonger,
            Nat.max_eq_left (by omega), slice?_dropLast hshort, decide_eq_true hshort,
            Bool.true_and, ← occurInOrder_eq_isSublist]
          rfl
        . rw [if_pos (by simpa using hshort), decide_eq_false hshort, Bool.false_and]
      . have hwhole : ¬(options.anchorEnd && decide (startOf options < pattern.length)
            && decide (name.length ≤ startOf options)) = true := by
          simp_all
        rw [if_neg hcut, if_neg hcut, if_neg hcut, if_neg hwhole, slice?_drop hpattern,
          Nat.max_eq_left hname, slice?_drop hname, ← occurInOrder_eq_isSublist]
        rfl

/-! ### What is found -/

/-- A pattern is in a name in order, and where it is anchored, the ends of both are the same. -/
structure Fits (options : PatternOptions) (pattern name : List Char) : Prop where
  sublist : pattern.Sublist name
  start : options.anchorStart = true → name.head? = pattern.head?
  stop : options.anchorEnd = true → name.getLast? = pattern.getLast?

/-- The same first character may be left out of both. -/
theorem drop_startOf_sublist (hne : pattern ≠ [])
    (hstart : options.anchorStart = true → name.head? = pattern.head?) :
    (pattern.drop (startOf options)).Sublist (name.drop (startOf options))
      ↔ pattern.Sublist name := by
  unfold startOf
  split
  . next hanchor =>
    have hhead := hstart hanchor
    cases pattern with
    | nil => cases hne rfl
    | cons c rest =>
      cases name with
      | nil => cases hhead
      | cons d name =>
        cases hhead
        exact List.cons_sublist_cons.symm
  . rfl

/-- The same last character may be left out of both. -/
theorem dropLast_sublist (hne : pattern ≠ []) (hlast : name.getLast? = pattern.getLast?) :
    pattern.dropLast.Sublist name.dropLast ↔ pattern.Sublist name := by
  rcases List.eq_nil_or_concat pattern with rfl | ⟨before, c, rfl⟩
  . cases hne rfl
  . rcases List.eq_nil_or_concat name with rfl | ⟨before', d, rfl⟩
    . simp at hlast
    . simp only [List.concat_eq_append, List.getLast?_concat, List.dropLast_concat,
        Option.some.injEq] at hlast ⊢
      rw [hlast]
      exact (List.append_sublist_append_right [c]).symm

/-- Where the ends are the same, what the search compares is there if and only if all is. -/
theorem rest_sublist (hne : pattern ≠ [])
    (hstart : options.anchorStart = true → name.head? = pattern.head?)
    (hend : options.anchorEnd = true → name.getLast? = pattern.getLast?) :
    let start := startOf options
    (if options.anchorEnd && !(pattern.drop start).isEmpty then
      !(name.drop start).isEmpty &&
        (pattern.drop start).dropLast.isSublist (name.drop start).dropLast
    else
      (pattern.drop start).isSublist (name.drop start)) = true ↔ pattern.Sublist name := by
  dsimp only
  rw [← drop_startOf_sublist hne hstart]
  split
  . next hcut =>
    obtain ⟨hanchor, hrest⟩ := (Bool.and_eq_true _ _).mp hcut
    have hpattern : pattern.drop (startOf options) ≠ [] := by
      simpa using hrest
    rw [Bool.and_eq_true, List.isSublist_iff_sublist]
    by_cases hname : name.drop (startOf options) = []
    . rw [hname]
      simpa using hpattern
    . have hlast : (name.drop (startOf options)).getLast?
          = (pattern.drop (startOf options)).getLast? := by
        rw [List.getLast?_drop, List.getLast?_drop, if_neg (by simpa using hname),
          if_neg (by simpa using hpattern)]
        exact hend hanchor
      rw [dropLast_sublist hpattern hlast]
      simp [hname]
  . exact List.isSublist_iff_sublist

theorem isSubsequenceOf_iff (hne : pattern ≠ []) :
    isSubsequenceOf options pattern name = true ↔ Fits options pattern name := by
  unfold isSubsequenceOf
  rw [drop_startOf, drop_startOf, Bool.and_eq_true, Bool.and_eq_true, Bool.or_eq_true,
    Bool.or_eq_true, Bool.not_eq_true', Bool.not_eq_true', beq_iff_eq, beq_iff_eq]
  constructor
  . rintro ⟨⟨hstart, hend⟩, hrest⟩
    have hstart' : options.anchorStart = true → name.head? = pattern.head? := by
      intro hanchor
      exact hstart.resolve_left (by simp [hanchor])
    have hend' : options.anchorEnd = true → name.getLast? = pattern.getLast? := by
      intro hanchor
      exact hend.resolve_left (by simp [hanchor])
    exact ⟨(rest_sublist hne hstart' hend').mp hrest, hstart', hend'⟩
  . rintro ⟨hsublist, hstart, hend⟩
    refine ⟨⟨?_, ?_⟩, (rest_sublist hne hstart hend).mpr hsublist⟩
    . cases hanchor : options.anchorStart with
      | false => exact .inl rfl
      | true => exact .inr (hstart hanchor)
    . cases hanchor : options.anchorEnd with
      | false => exact .inl rfl
      | true => exact .inr (hend hanchor)

/-! ### Where it is found -/

/--
Places of the characters of a pattern in a name, in the order of the pattern. Where the pattern is
anchored, its end is at the end of the name.
-/
structure IsPinned (options : PatternOptions) (pattern name : List Char)
    (place : Fin pattern.length ↪o Fin name.length) : Prop where
  same : ∀ i, name.get (place i) = pattern.get i
  start : options.anchorStart = true → ∀ i, i.val = 0 → (place i).val = 0
  stop : options.anchorEnd = true → ∀ i, i.val + 1 = pattern.length →
    (place i).val + 1 = name.length

namespace IsPinned

variable {place : Fin pattern.length ↪o Fin name.length}

theorem getElem?_place (h : IsPinned options pattern name place) (i : Fin pattern.length) :
    name[(place i).val]? = pattern[i.val]? := by
  rw [List.getElem?_eq_getElem (place i).isLt, List.getElem?_eq_getElem i.isLt]
  exact congrArg some (h.same i)

theorem fits (h : IsPinned options pattern name place) (hne : pattern ≠ []) :
    Fits options pattern name := by
  have hlength := List.length_pos_iff.mpr hne
  refine ⟨?_, ?_, ?_⟩
  . rw [List.sublist_iff_exists_fin_orderEmbedding_get_eq]
    exact ⟨place, fun i => (h.same i).symm⟩
  . intro hanchor
    have hfirst := h.getElem?_place ⟨0, hlength⟩
    rw [h.start hanchor _ rfl] at hfirst
    rw [List.head?_eq_getElem?, List.head?_eq_getElem?]
    exact hfirst
  . intro hanchor
    have hlast := h.getElem?_place ⟨pattern.length - 1, by omega⟩
    have hplace := h.stop hanchor ⟨pattern.length - 1, by omega⟩ (by dsimp only; omega)
    rw [List.getLast?_eq_getElem?, List.getLast?_eq_getElem?, ← hlast]
    congr 1
    omega

end IsPinned

/-- The places with the anchored ends moved to the ends of the name. -/
def pinned (options : PatternOptions) (place : Fin pattern.length ↪o Fin name.length)
    (i : Fin pattern.length) : Fin name.length :=
  if options.anchorStart = true ∧ i.val = 0 then
    ⟨0, Nat.zero_lt_of_lt (place i).isLt⟩
  else if options.anchorEnd = true ∧ i.val + 1 = pattern.length then
    ⟨name.length - 1, Nat.sub_one_lt_of_lt (place i).isLt⟩
  else
    place i

/-- Nothing is moved past another place, for nothing is before the start or behind the end. -/
theorem strictMono_pinned (options : PatternOptions)
    (place : Fin pattern.length ↪o Fin name.length) : StrictMono (pinned options place) := by
  intro i j hij
  have hplaces : (place i).val < (place j).val := place.strictMono hij
  have hlast := (place j).isLt
  have hinside := j.isLt
  rw [Fin.lt_def] at hij ⊢
  unfold pinned
  split
  . split
    . omega
    . split
      . dsimp only
        omega
      . dsimp only
        omega
  . split
    . omega
    . split
      . omega
      . split
        . dsimp only
          omega
        . exact hplaces

/-- The ends of a pattern with two characters or more are two places, so that both can be moved. -/
theorem Fits.exists_isPinned (h : Fits options pattern name) (hlength : 2 ≤ pattern.length) :
    ∃ place, IsPinned options pattern name place := by
  obtain ⟨place, hplace⟩ := List.sublist_iff_exists_fin_orderEmbedding_get_eq.mp h.sublist
  refine ⟨OrderEmbedding.ofStrictMono _ (strictMono_pinned options place), ?_, ?_, ?_⟩
  . intro i
    have hinside := (place i).isLt
    rw [OrderEmbedding.coe_ofStrictMono]
    unfold pinned
    split
    . next hfirst =>
      have hsame := h.start hfirst.1
      rw [List.head?_eq_getElem?, List.head?_eq_getElem?, List.getElem?_eq_getElem (by omega),
        List.getElem?_eq_getElem (by omega), Option.some.injEq] at hsame
      simpa [hfirst.2] using hsame
    . split
      . next hlast =>
        have hsame := h.stop hlast.1
        rw [List.getLast?_eq_getElem?, List.getLast?_eq_getElem?,
          List.getElem?_eq_getElem (by omega), List.getElem?_eq_getElem (by omega),
          Option.some.injEq] at hsame
        have hi : i.val = pattern.length - 1 := by omega
        simpa [hi] using hsame
      . exact (hplace i).symm
  . intro hanchor i hi
    rw [OrderEmbedding.coe_ofStrictMono, pinned, if_pos ⟨hanchor, hi⟩]
  . intro hanchor i hi
    have hinside := (place i).isLt
    rw [OrderEmbedding.coe_ofStrictMono, pinned, if_neg (by omega), if_pos ⟨hanchor, hi⟩]
    dsimp only
    omega

/-! ### What is accepted -/

/-- The characters that are compared: those of the lower case, if case makes no difference. -/
def letters (options : PatternOptions) (s : String) : List Char :=
  (if options.ignoreCase then Text.lowerCase s else s).toList

theorem letters_ne_nil {s : String} (h : s ≠ "") : letters options s ≠ [] := by
  have hchars : s.toList ≠ [] := by
    intro hnil
    exact h (String.toList_eq_nil_iff.mp hnil)
  unfold letters
  split
  . obtain ⟨c, rest, hs⟩ := List.exists_cons_of_ne_nil hchars
    rw [Text.lowerCase, String.toList_ofList, hs]
    exact Text.LowerCase.go_ne_nil [] rest c
  . exact hchars

theorem accepts_eq {s : String} (hne : s ≠ "") (hsubsequence : options.subsequence = true)
    (t : String) :
    accepts options s t = isSubsequenceOf options (letters options s) (letters options t) := by
  unfold accepts letters isFoundIn
  rw [if_neg (by simpa using hne), hsubsequence, if_pos rfl, if_pos rfl]
  split <;> rfl

/--
The search for a subsequence goes through without a part that is not there. It accepts a name if and
only if the pattern is in the name in order and the anchored ends are the same; if the pattern has
two characters or more, this is to say that it can be laid on the name with these ends on the ends.
-/
theorem accepts_subsequence (options : PatternOptions) (pattern name : String) (hne : pattern ≠ "")
    (hsubsequence : options.subsequence = true) :
    let P := letters options pattern
    let N := letters options name
    searchByPlace? options P N = some (accepts options pattern name) ∧
      (accepts options pattern name = true ↔ P.Sublist N ∧
        (options.anchorStart = true → N.head? = P.head?) ∧
        (options.anchorEnd = true → N.getLast? = P.getLast?)) ∧
      (2 ≤ P.length →
        (accepts options pattern name = true ↔ ∃ place, IsPinned options P N place)) := by
  have hP : letters options pattern ≠ [] := letters_ne_nil hne
  have hfits : _ ↔ Fits options _ (letters options name) := isSubsequenceOf_iff hP
  rw [← accepts_eq hne hsubsequence] at hfits
  refine ⟨?_, ?_, ?_⟩
  . rw [accepts_eq hne hsubsequence]
    exact searchByPlace?_eq hP
  . rw [hfits]
    exact ⟨fun ⟨h, h', h''⟩ => ⟨h, h', h''⟩, fun ⟨h, h', h''⟩ => ⟨h, h', h''⟩⟩
  . intro hlength
    rw [hfits]
    exact ⟨fun h => h.exists_isPinned hlength, fun ⟨_, h⟩ => h.fits hP⟩

/-- In lower case, the second character of the pattern is two characters. -/
theorem accepts_dottedCapital :
    let options : PatternOptions := ⟨true, true, true, true⟩
    "aİ" ≠ "" ∧ options.subsequence = true ∧ 2 ≤ (letters options "aİ").length ∧
      accepts options "aİ" "AxI\u0307" = true ∧
      ∃ place, IsPinned options (letters options "aİ") (letters options "AxI\u0307") place := by
  have hpattern : letters ⟨true, true, true, true⟩ "aİ" = ['a', 'i', '\u0307'] := by
    decide +kernel
  have haccepts : accepts ⟨true, true, true, true⟩ "aİ" "AxI\u0307" = true := by
    decide +kernel
  have hlength : 2 ≤ (letters ⟨true, true, true, true⟩ "aİ").length := by
    rw [hpattern]
    decide
  obtain ⟨_, _, hplaces⟩ :=
    accepts_subsequence ⟨true, true, true, true⟩ "aİ" "AxI\u0307" (by decide) rfl
  exact ⟨by decide, rfl, hlength, haccepts, (hplaces hlength).mp haccepts⟩

end FreshIndex.Pattern
