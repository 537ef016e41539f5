import Mathlib.Data.List.Forall2
import FreshIndex.Proofs.Store.Answers
import FreshIndex.Proofs.Store.Failures

/-!
This module contains the proof that the unit tests of main files are found exactly, for as many
files as a statement can have variables. For more there is no answer.
-/

namespace FreshIndex

section Forall₂

variable {α β : Type} {R : α → β → Prop} {as as' : List α} {bs bs' : List β}

theorem exists_sublist_of_forall₂ (h : List.Forall₂ R as bs) (hsub : as'.Sublist as) :
    ∃ bs', bs'.Sublist bs ∧ List.Forall₂ R as' bs' := by
  induction hsub generalizing bs with
  | slnil => exact ⟨[], List.nil_sublist _, .nil⟩
  | cons a _ ih =>
    cases h with
    | cons _ hrest =>
      obtain ⟨bs', hsub, heach⟩ := ih hrest
      exact ⟨bs', hsub.cons _, heach⟩
  | cons_cons a _ ih =>
    cases h with
    | cons hfirst hrest =>
      obtain ⟨bs', hsub, heach⟩ := ih hrest
      exact ⟨_ :: bs', hsub.cons_cons _, .cons hfirst heach⟩

variable (hunique : Relator.RightUnique R)
include hunique

theorem sublist_of_forall₂ (h : List.Forall₂ R as bs) (h' : List.Forall₂ R as' bs')
    (hsub : as'.Sublist as) : bs'.Sublist bs := by
  obtain ⟨cs, hcs, heach⟩ := exists_sublist_of_forall₂ h hsub
  rw [List.right_unique_forall₂' hunique h' heach]
  exact hcs

theorem mem_iff_of_forall₂ (h : List.Forall₂ R as bs) (b : β) :
    b ∈ bs ↔ ∃ a ∈ as, R a b := by
  induction h with
  | nil => simp
  | cons hfirst _ ih =>
    rw [List.mem_cons, ih, List.exists_mem_cons_iff]
    apply or_congr_left
    constructor
    . rintro rfl
      exact hfirst
    . exact fun hb => hunique hb hfirst

end Forall₂

namespace Store

variable {σ : Type} {db : Database} {c : Contents}

namespace Contents

/-- The records of the tests in units with a main file among `paths`. -/
def testsOf (c : Contents) (paths : List String) : List OccurrenceRecord :=
  c.occurrences.filter (c.lists · (.unitTestsFor paths))

theorem mem_testsOf {o : OccurrenceRecord} {paths : List String} :
    o ∈ c.testsOf paths ↔
      o ∈ c.occurrences ∧ ∃ u ∈ c.unitTests, u.occurrence = o.id ∧ u.mainFile ∈ paths := by
  simp [testsOf, lists]

/-- Neither the order of the files nor how often they are listed matters. -/
theorem testsOf_congr {xs ys : List String} (h : ∀ path, path ∈ xs ↔ path ∈ ys) :
    c.testsOf xs = c.testsOf ys := by
  have hsame (path : String) : xs.contains path = ys.contains path := by
    rw [Bool.eq_iff_iff, List.contains_iff_mem, List.contains_iff_mem, h]
  simp only [testsOf, lists, hsame]

theorem testsOf_replicate (c : Contents) {n : Nat} (hn : n ≠ 0) (path : String) :
    c.testsOf (List.replicate n path) = c.testsOf [path] := by
  apply testsOf_congr
  simp [List.mem_replicate, hn]

theorem testsOf_sublist (c : Contents) (paths : List String) :
    (c.testsOf paths).Sublist (c.occurrences.filter (c.lists · .unitTests)) := by
  apply List.monotone_filter_right
  intro o h
  simp only [lists, List.any_eq_true, Bool.and_eq_true] at h ⊢
  obtain ⟨u, hu, hid, _⟩ := h
  exact ⟨u, hu, hid⟩

/-! ### A record says one occurrence -/

variable (hsound : c.IsSound)
include hsound

theorem IsSound.symbol_unique : Relator.RightUnique c.HasSymbol := by
  rintro usr _ _ ⟨s, hs, rfl, rfl⟩ ⟨s', hs', husr, rfl⟩
  rw [List.inj_on_of_nodup_map hsound.symbols hs' hs husr]

theorem IsSound.relation_unique : Relator.RightUnique c.IsRelation := by
  rintro r ⟨symbol, roles⟩ ⟨symbol', roles'⟩ h h'
  obtain rfl : symbol = symbol' := hsound.symbol_unique h.symbol h'.symbol
  obtain rfl : roles = roles' := h.roles.trans h'.roles.symm
  rfl

theorem IsSound.occurrence_unique : Relator.RightUnique c.IsOccurrence := by
  rintro o ⟨location, roles, symbol, relations⟩ ⟨location', roles', symbol', relations'⟩ h h'
  obtain rfl : location = location' := h.location.trans h'.location.symm
  obtain rfl : roles = roles' := h.roles.trans h'.roles.symm
  obtain rfl : symbol = symbol' := hsound.symbol_unique h.symbol h'.symbol
  obtain rfl : relations = relations' :=
    List.right_unique_forall₂' hsound.relation_unique h.relations h'.relations
  rfl

/-- The tests of some files and of others are those of all of them. -/
theorem mem_append_iff {xs ys : List String} {os osx osy : List Occurrence}
    (h : c.Yields (c.testsOf (xs ++ ys)) os) (hx : c.Yields (c.testsOf xs) osx)
    (hy : c.Yields (c.testsOf ys) osy) (o : Occurrence) : o ∈ os ↔ o ∈ osx ∨ o ∈ osy := by
  rw [mem_iff_of_forall₂ hsound.occurrence_unique h.each,
    mem_iff_of_forall₂ hsound.occurrence_unique hx.each,
    mem_iff_of_forall₂ hsound.occurrence_unique hy.each, ← exists_or]
  apply exists_congr
  intro record
  rw [← or_and_right, mem_testsOf, mem_testsOf, mem_testsOf]
  simp only [List.mem_append, and_or_left, exists_or]

end Contents

/-! ### The answers of the index -/

namespace StoredIndex

variable {i : StoredIndex} {database : σ → Database} {w : World σ} {paths : List String}

/-- The tests of main files that the index has. -/
def testsFound (i : StoredIndex) (database : σ → Database) (w : World σ) (paths : List String) :
    List Occurrence :=
  ((i.toRawIndex database).unitTestsFor paths w).1

theorem answers_of_fits (hconnect : i.canConnect = true) (hholds : (database w.state).Holds c)
    (hsound : c.IsSound) (hfits : paths.length ≤ maxVariables) :
    c.Yields (c.testsOf paths) (i.testsFound database w paths) ∧
      Answers ((i.toRawIndex database).unitTestsFor paths) w (.unitTestsOf paths)
        (i.testsFound database w paths) := by
  obtain ⟨os, hos, hyields⟩ := listedIn_eq hholds hsound (.unitTestsFor paths)
    fun paths' hpaths => by cases hpaths; exact hfits
  have hanswers : Answers ((i.toRawIndex database).unitTestsFor paths) w (.unitTestsOf paths) os :=
    answers_found hconnect (.unitTestsFor paths) hos
  have hfound : i.testsFound database w paths = os := congrArg Prod.fst hanswers
  rw [hfound]
  exact ⟨hyields, hanswers⟩

/-- With too many variables, the statement is rejected before any row is read. -/
theorem unitTestsFor_of_tooMany (hconnect : i.canConnect = true)
    (htooMany : maxVariables < paths.length) :
    (i.toRawIndex database).unitTestsFor paths w = ([], ⟨w.state,
      [.log (.queryFailed .unitTestsOf .tooManyVariables), .call (.unitTestsOf paths)] ++
        w.trace⟩) := by
  have hne : ¬ paths.isEmpty = true := by
    rw [List.isEmpty_iff_length_eq_zero]
    omega
  have hreply : i.unitTestsReply (database w.state) paths
      = ⟨[], [.log (.queryFailed .unitTestsOf .tooManyVariables)]⟩ := by
    rw [unitTestsReply, if_neg hne, Database.unitTestOccurrencesOf, if_neg hne, if_pos htooMany]
    exact if_pos hconnect
  have hquestion : (i.toRawIndex database).unitTestsOf paths w.state
      = (i.unitTestsReply (database w.state) paths, w.state) := rfl
  rw [RawIndex.unitTestsFor, World.askIndex_eq, hquestion, hreply]
  rfl

theorem testsFound_of_tooMany (hconnect : i.canConnect = true)
    (htooMany : maxVariables < paths.length) : i.testsFound database w paths = [] := by
  rw [testsFound, unitTestsFor_of_tooMany hconnect htooMany]

theorem testsFound_sublist (hconnect : i.canConnect = true)
    (hholds : (database w.state).Holds c) (hsound : c.IsSound) (paths : List String) :
    (i.testsFound database w paths).Sublist ((i.toRawIndex database).allUnitTests w).1 := by
  by_cases hfits : paths.length ≤ maxVariables
  . obtain ⟨os, hos, hyields⟩ := listedIn_eq hholds hsound .unitTests fun _ h => by cases h
    have hall : ((i.toRawIndex database).allUnitTests w).1 = os :=
      congrArg Prod.fst (answers_found hconnect .unitTests hos)
    rw [hall]
    exact sublist_of_forall₂ hsound.occurrence_unique hyields.each
      (answers_of_fits hconnect hholds hsound hfits).1.each (c.testsOf_sublist paths)
  . rw [testsFound_of_tooMany hconnect (by omega)]
    exact List.nil_sublist _

theorem yields_testsFound_iff (hconnect : i.canConnect = true)
    (hholds : (database w.state).Holds c) (hsound : c.IsSound) (paths : List String) :
    c.Yields (c.testsOf paths) (i.testsFound database w paths) ↔
      paths.length ≤ maxVariables ∨ c.testsOf paths = [] := by
  by_cases hfits : paths.length ≤ maxVariables
  . exact iff_of_true (answers_of_fits hconnect hholds hsound hfits).1 (.inl hfits)
  . rw [testsFound_of_tooMany hconnect (by omega)]
    constructor
    . intro h
      exact .inr (List.forall₂_nil_right_iff.mp h.each)
    . intro h
      rw [h.resolve_left hfits]
      exact ⟨.nil, by simp, .nil⟩

/-- A list that is too long has no tests, so that it has those of its parts if they have none. -/
theorem mem_testsFound_append_iff (hconnect : i.canConnect = true)
    (hholds : (database w.state).Holds c) (hsound : c.IsSound) (xs ys : List String) :
    (∀ o, o ∈ i.testsFound database w (xs ++ ys) ↔
        o ∈ i.testsFound database w xs ∨ o ∈ i.testsFound database w ys) ↔
      (xs ++ ys).length ≤ maxVariables ∨
        i.testsFound database w xs = [] ∧ i.testsFound database w ys = [] := by
  by_cases hfits : (xs ++ ys).length ≤ maxVariables
  . have hlengths : (xs ++ ys).length = xs.length + ys.length := List.length_append
    have hyields (paths : List String) (hfits : paths.length ≤ maxVariables) :
        c.Yields (c.testsOf paths) (i.testsFound database w paths) :=
      (answers_of_fits hconnect hholds hsound hfits).1
    refine iff_of_true ?_ (.inl hfits)
    exact Contents.mem_append_iff hsound (hyields _ hfits) (hyields xs (by omega))
      (hyields ys (by omega))
  . rw [testsFound_of_tooMany hconnect (by omega)]
    simp only [hfits, false_or, List.not_mem_nil, false_iff, not_or, forall_and,
      List.eq_nil_iff_forall_not_mem]

/--
The tests of up to 32766 main files are exactly those that the records say, each once and in order.
For more files there is none, and the failure is logged. So the tests of a list in two parts are
those of the parts, unless the list is too long and one of the parts has a test.
-/
theorem unitTestsFor_exact (i : StoredIndex) (database : σ → Database) (w : World σ) (c : Contents)
    (hconnect : i.canConnect = true) (hholds : (database w.state).Holds c) (hsound : c.IsSound) :
    (∀ paths, c.Yields (c.testsOf paths) (i.testsFound database w paths) ↔
      paths.length ≤ maxVariables ∨ c.testsOf paths = []) ∧
    (∀ paths, paths.length ≤ maxVariables →
      Answers ((i.toRawIndex database).unitTestsFor paths) w (.unitTestsOf paths)
        (i.testsFound database w paths)) ∧
    (∀ paths, maxVariables < paths.length → i.testsFound database w paths = [] ∧
      World.LogsFailure ((i.toRawIndex database).unitTestsFor paths) w .tooManyVariables) ∧
    (∀ paths, (i.testsFound database w paths).Sublist
      ((i.toRawIndex database).allUnitTests w).1) ∧
    ∀ xs ys, (∀ o, o ∈ i.testsFound database w (xs ++ ys) ↔
        o ∈ i.testsFound database w xs ∨ o ∈ i.testsFound database w ys) ↔
      (xs ++ ys).length ≤ maxVariables ∨
        i.testsFound database w xs = [] ∧ i.testsFound database w ys = [] := by
  refine ⟨yields_testsFound_iff hconnect hholds hsound, ?_, ?_,
    testsFound_sublist hconnect hholds hsound, mem_testsFound_append_iff hconnect hholds hsound⟩
  . intro paths hfits
    exact (answers_of_fits hconnect hholds hsound hfits).2
  . intro paths htooMany
    refine ⟨testsFound_of_tooMany hconnect htooMany, ?_⟩
    rw [World.LogsFailure, unitTestsFor_of_tooMany hconnect htooMany]
    exact ⟨_, .unitTestsOf, rfl, List.mem_cons_self⟩

/-- A file may be repeated until the statement has as many variables as it can have. -/
theorem unitTestsFor_repeated :
    let i : StoredIndex := ⟨.ofText "/index", 5000⟩
    let c : Contents := .sample
    let paths : List String := List.replicate maxVariables "/tests"
    i.canConnect = true ∧ c.database.Holds c ∧ c.IsSound ∧
      (c.testsOf paths).map OccurrenceRecord.id = [2] ∧
      c.Yields (c.testsOf paths) (i.testsFound id ⟨c.database, []⟩ paths) := by
  refine ⟨by decide, Contents.holds_database _, Contents.isSound_sample, ?_, ?_⟩
  . rw [Contents.testsOf_replicate _ (by decide)]
    decide
  . obtain ⟨hexact, _⟩ := unitTestsFor_exact ⟨.ofText "/index", 5000⟩ id
      ⟨Contents.sample.database, []⟩ .sample (by decide) (Contents.holds_database _)
      Contents.isSound_sample
    rw [hexact, List.length_replicate]
    exact .inl (Nat.le_refl _)

/-- With one more, its test is no longer found. -/
theorem testsFound_repeatedOnceMore :
    let i : StoredIndex := ⟨.ofText "/index", 5000⟩
    let c : Contents := .sample
    let paths : List String := List.replicate 32767 "/tests"
    c.database.Holds c ∧ c.IsSound ∧
      i.testsFound id ⟨c.database, []⟩ paths = [] ∧
      ¬ c.Yields (c.testsOf paths) (i.testsFound id ⟨c.database, []⟩ paths) := by
  intro i c paths
  have htests : (c.testsOf paths).map OccurrenceRecord.id = [2] := by
    rw [Contents.testsOf_replicate _ (by decide)]
    decide
  have hnone : i.testsFound id ⟨c.database, []⟩ paths = [] := by
    apply testsFound_of_tooMany (by decide)
    rw [List.length_replicate]
    decide
  refine ⟨c.holds_database, Contents.isSound_sample, hnone, ?_⟩
  intro h
  rw [hnone] at h
  rw [List.forall₂_nil_right_iff.mp h.each] at htests
  cases htests

end StoredIndex

end Store

end FreshIndex
