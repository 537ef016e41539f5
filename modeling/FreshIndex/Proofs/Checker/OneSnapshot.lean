import FreshIndex.Proofs.Checker.Steps

/-!
This module contains the proof that a checker judges all that it is asked by the first answers that
the machine gave, however the machine changes meanwhile.
-/

namespace FreshIndex

open Observation

variable {σ β : Type}

/-- What a checker is asked. The index may be another each time. -/
inductive CheckerQuery (σ : Type)
  | isFresh (l : Location)
  | modificationTime (uri : DocumentUri)
  | fileExists (uri : DocumentUri)
  | hasFreshUnit (index : RawIndex σ) (file : DocumentUri) (mainFile : Option DocumentUri)
  | fileHasUnsavedEdits (uri : DocumentUri)

inductive CheckerAnswer
  | verdict (isSo : Bool)
  | time (found : Except IoError ModificationTime)

namespace CheckerQuery

def subject : CheckerQuery σ → DocumentUri
  | isFresh l => .ofPathText l.path
  | modificationTime uri => uri
  | fileExists uri => uri
  | hasFreshUnit _ file _ => file
  | fileHasUnsavedEdits uri => uri

def run (host : Host σ) : CheckerQuery σ → StateM (Checking σ) CheckerAnswer
  | isFresh l => return .verdict (← Checker.isFresh host l)
  | modificationTime uri => return .time (← Checker.modificationTime host uri)
  | fileExists uri => return .verdict (← Checker.fileExists host uri)
  | hasFreshUnit index file mainFile =>
    return .verdict (← Checker.hasFreshUnit host index file mainFile)
  | fileHasUnsavedEdits uri => return .verdict (← Checker.fileHasUnsavedEdits host uri)

def observed : CheckerQuery σ → CheckerQuery (σ × List Observation)
  | isFresh l => isFresh l
  | modificationTime uri => modificationTime uri
  | fileExists uri => fileExists uri
  | hasFreshUnit index file mainFile => hasFreshUnit index.observed file mainFile
  | fileHasUnsavedEdits uri => fileHasUnsavedEdits uri

end CheckerQuery

structure CheckerStep (σ : Type) where
  query : CheckerQuery σ
  answer : CheckerAnswer
  observations : List Observation
  reported : List Diagnostic

namespace CheckerStep

/-- What was found if a time was looked up. -/
def found? (step : CheckerStep σ) : Option (Except IoError ModificationTime) :=
  lookup? step.query.subject step.observations

/-- The questions by which a time was looked up. -/
def lookups (step : CheckerStep σ) : List Observation :=
  step.observations.filter isOfLookup

def answers (pick : Observation → Option β) (steps : List (CheckerStep σ)) : List β :=
  steps.flatMap fun step => step.observations.filterMap pick

/-- The times of a document that were found by look-ups that did not fail. -/
def times (uri : DocumentUri) (steps : List (CheckerStep σ)) : List ModificationTime :=
  steps.flatMap fun step => (Observation.found? step.query.subject step.observations uri).toList

end CheckerStep

open CheckerStep

namespace Checker

/-- The answers to queries in turn, each with what is reported while it is found. -/
def replies (host : Host σ) :
    List (CheckerQuery σ) → Checking σ → List (CheckerAnswer × List Diagnostic)
  | [], _ => []
  | query :: rest, c =>
    ((query.run host c).1,
      (query.run host c).2.world.diagnostics.drop c.world.diagnostics.length) ::
      replies host rest (query.run host c).2

/-- The same on the machine that keeps what it answers. -/
def history (host : Host σ) :
    List (CheckerQuery σ) → Checking (σ × List Observation) → List (CheckerStep σ)
  | [], _ => []
  | query :: rest, c =>
    { query
      answer := (query.observed.run host.observed c).1
      observations :=
        (query.observed.run host.observed c).2.world.state.2.drop c.world.state.2.length
      reported :=
        (query.observed.run host.observed c).2.world.diagnostics.drop
          c.world.diagnostics.length } ::
      history host rest (query.observed.run host.observed c).2

/-- What is remembered is what was answered: everything once. -/
structure Recalls (level : CheckLevel) (c : Checker) (steps : List (CheckerStep σ)) : Prop where
  level : c.level = level
  existence : ∀ path,
    (c.existence.get? (.file path)).toList = answers (existence? (.file path)) steps
  edits : ∀ uri, (c.unsavedEdits.get? uri).toList = answers (edits? uri) steps
  times : ∀ path, (c.modificationTimes.get? (.file path)).toList = times (.file path) steps

/-- What a step does to a checker, and how it judges a location. -/
structure Follows (c c' : Checker) (step : CheckerStep σ) : Prop where
  advances : Advances step.query.subject c c' step.observations
  judges : ∀ l, step.query = .isFresh l → ∃ isSo, step.answer = .verdict isSo ∧
    Judges c.level l (c'.existence.get? (.ofPathText l.path))
      (c'.unsavedEdits.get? (.ofPathText l.path))
      (c'.modificationTimes.get? (.ofPathText l.path)) step.found? isSo step.reported

theorem recalls_ofLevel (level : CheckLevel) :
    Recalls level (ofLevel level) ([] : List (CheckerStep σ)) where
  level := rfl
  existence _ := rfl
  edits _ := rfl
  times _ := rfl

theorem Recalls.snoc {level : CheckLevel} {c c' : Checker} {steps : List (CheckerStep σ)}
    {step : CheckerStep σ} (h : Recalls level c steps)
    (hstep : Advances step.query.subject c c' step.observations) :
    Recalls level c' (steps ++ [step]) where
  level := hstep.level.trans h.level
  existence path := by
    rw [hstep.existence, h.existence]
    simp [answers]
  edits uri := by
    rw [hstep.edits, h.edits]
    simp [answers]
  times path := by
    rw [hstep.times, h.times]
    simp [CheckerStep.times]

theorem observes_run (host : Host σ) (c : Checker) (query : CheckerQuery σ) :
    Observes (query.observed.run host.observed) (query.run host) c
      fun answer c' os ds => Follows c c' ⟨query, answer, os, ds⟩ := by
  cases query with
  | isFresh l =>
    apply Observes.bind (observes_isFresh host c l)
    rintro isSo c' os ds ⟨hadvances, hjudges⟩
    apply Observes.pure
    simp only [List.append_nil]
    refine ⟨hadvances, ?_⟩
    rintro l' h
    cases h
    exact ⟨isSo, rfl, hjudges⟩
  | modificationTime uri =>
    apply Observes.bind (observes_modificationTime host c uri)
    rintro found c' os ds ⟨hadvances, _⟩
    apply Observes.pure
    simp only [List.append_nil]
    exact ⟨hadvances, by simp⟩
  | fileExists uri =>
    apply Observes.bind (observes_fileExists host c uri uri)
    rintro isSo c' os ds ⟨hadvances, _⟩
    apply Observes.pure
    simp only [List.append_nil]
    exact ⟨hadvances, by simp⟩
  | hasFreshUnit index file mainFile =>
    apply Observes.bind (observes_hasFreshUnit host index c file mainFile)
    rintro isSo c' os ds hadvances
    apply Observes.pure
    simp only [List.append_nil]
    exact ⟨hadvances, by simp⟩
  | fileHasUnsavedEdits uri =>
    apply Observes.bind (observes_fileHasUnsavedEdits host c uri)
    rintro isSo c' os ds hadvances
    apply Observes.pure
    simp only [List.append_nil]
    exact ⟨hadvances, by simp⟩

theorem follows_run (host : Host σ) (query : CheckerQuery σ)
    (c : Checking (σ × List Observation)) :
    Follows c.checker (query.observed.run host.observed c).2.checker
      ⟨query, (query.observed.run host.observed c).1,
        (query.observed.run host.observed c).2.world.state.2.drop c.world.state.2.length,
        (query.observed.run host.observed c).2.world.diagnostics.drop
          c.world.diagnostics.length⟩ := by
  obtain ⟨_, _, os, ds, hos, hds, hfollows⟩ := observes_run host c.checker query c.world
  rw [hos, hds, List.drop_left, List.drop_left]
  exact hfollows

theorem map_history (host : Host σ) (queries : List (CheckerQuery σ))
    (c : Checking (σ × List Observation)) :
    (history host queries c).map (fun step => (step.answer, step.reported))
      =
    replies host queries c.forget := by
  induction queries generalizing c with
  | nil => rfl
  | cons query rest ih =>
    obtain ⟨hanswer, hforget, _⟩ := observes_run host c.checker query c.world
    have hafter : (query.observed.run host.observed c).2.forget = (query.run host c.forget).2 :=
      hforget
    unfold history replies
    rw [List.map_cons, ih, hafter]
    congr 1
    apply Prod.ext
    . exact hanswer
    . dsimp only
      rw [← hafter]
      rfl

theorem map_query_history (host : Host σ) (queries : List (CheckerQuery σ))
    (c : Checking (σ × List Observation)) :
    (history host queries c).map (·.query) = queries := by
  induction queries generalizing c with
  | nil => rfl
  | cons query rest ih =>
    unfold history
    rw [List.map_cons, ih]

theorem history_split (host : Host σ) {level : CheckLevel} (queries : List (CheckerQuery σ))
    (c : Checking (σ × List Observation)) {past : List (CheckerStep σ)}
    (hpast : Recalls level c.checker past) {before after : List (CheckerStep σ)}
    {step : CheckerStep σ} (hsplit : history host queries c = before ++ step :: after) :
    ∃ k k', Recalls level k (past ++ before) ∧ Follows k k' step ∧
      Recalls level k' (past ++ before ++ [step]) := by
  -- The first step joins `past`, so that the rest of `before` is what the induction is left with.
  induction queries generalizing c past before with
  | nil =>
    unfold history at hsplit
    cases before with
    | nil => cases hsplit
    | cons _ _ => cases hsplit
  | cons query rest ih =>
    have hfollows := follows_run host query c
    unfold history at hsplit
    cases before with
    | nil =>
      obtain ⟨rfl, _⟩ := List.cons.inj hsplit
      refine ⟨_, _, ?_, hfollows, ?_⟩
      . rw [List.append_nil]
        exact hpast
      . rw [List.append_nil]
        exact hpast.snoc hfollows.advances
    | cons first before =>
      obtain ⟨hfirst, hrest⟩ := List.cons.inj hsplit
      have hnext := hpast.snoc hfollows.advances
      obtain ⟨k, k', hk, hstep, hk'⟩ := ih _ hnext hrest
      rw [hfirst] at hk hk'
      refine ⟨k, k', ?_, hstep, ?_⟩
      . simpa using hk
      . simpa using hk'

theorem recalls_history (host : Host σ) {level : CheckLevel} (queries : List (CheckerQuery σ))
    (c : Checking (σ × List Observation)) {past : List (CheckerStep σ)}
    (hpast : Recalls level c.checker past) :
    ∃ k, Recalls level k (past ++ history host queries c) := by
  induction queries generalizing c past with
  | nil =>
    unfold history
    rw [List.append_nil]
    exact ⟨c.checker, hpast⟩
  | cons query rest ih =>
    have hnext := hpast.snoc (follows_run host query c).advances
    obtain ⟨k, hk⟩ := ih _ hnext
    refine ⟨k, ?_⟩
    unfold history
    rw [List.append_assoc] at hk
    exact hk

theorem Judges.mono {level : CheckLevel} {l : Location}
    {existence existence' edits edits' : Option Bool}
    {time time' : Option ModificationTime} {found : Option (Except IoError ModificationTime)}
    {answer : Bool} {ds : List Diagnostic}
    (h : Judges level l existence edits time found answer ds)
    (hexistence : ∀ b, existence = some b → existence' = some b)
    (hedits : ∀ b, edits = some b → edits' = some b)
    (htime : ∀ t, time = some t → time' = some t) :
    Judges level l existence' edits' time' found answer ds := by
  unfold Judges at h ⊢
  split at h
  . rename_i hlevel
    rw [if_pos hlevel]
    exact ⟨hexistence _ h.1, h.2⟩
  . rename_i hlevel
    rw [if_neg hlevel]
    split at h
    . rename_i hedited
      rw [if_pos ⟨hedited.1, hedits _ hedited.2⟩]
      exact h
    . obtain ⟨hunedited, hjudged⟩ := h
      have hnot : ¬ (level.asksEditor = true ∧ edits' = some true) := by
        rintro ⟨hasks, hedited⟩
        rw [hedits false (hunedited hasks)] at hedited
        cases hedited
      rw [if_neg hnot]
      refine ⟨fun hasks => hedits _ (hunedited hasks), ?_⟩
      unfold JudgesByTime at hjudged ⊢
      split at hjudged
      . exact hjudged
      . obtain ⟨known, hknown, hanswer⟩ := hjudged
        exact ⟨known, htime known hknown, hanswer⟩

end Checker

def firstExistence (uri : DocumentUri) (steps : List (CheckerStep σ)) : Option Bool :=
  (answers (existence? uri) steps).head?

def firstEdits (uri : DocumentUri) (steps : List (CheckerStep σ)) : Option Bool :=
  (answers (edits? uri) steps).head?

/-- What was found when the time of a document was first looked up without failure. -/
def firstTime (uri : DocumentUri) (steps : List (CheckerStep σ)) : Option ModificationTime :=
  (times uri steps).head?

namespace Checker

theorem head?_of_recalled {α : Type} {o : Option α} {a : α} {all : List α} (rest : List α)
    (h : o.toList = all) (ho : o = some a) : (all ++ rest).head? = some a := by
  rw [← h, ho]
  rfl

theorem answers_append (pick : Observation → Option β) (steps steps' : List (CheckerStep σ)) :
    answers pick (steps ++ steps') = answers pick steps ++ answers pick steps' :=
  List.flatMap_append

theorem times_append (uri : DocumentUri) (steps steps' : List (CheckerStep σ)) :
    CheckerStep.times uri (steps ++ steps')
      =
    CheckerStep.times uri steps ++ CheckerStep.times uri steps' :=
  List.flatMap_append

theorem answers_existence_other (address : String) (steps : List (CheckerStep σ)) :
    answers (existence? (.other address)) steps = [] := by
  unfold answers
  apply List.flatMap_eq_nil_iff.mpr
  intro step _
  apply List.filterMap_eq_nil_iff.mpr
  intro o _
  cases o <;> simp [existence?]

theorem Follows.lookups {level : CheckLevel} {k k' : Checker} {before : List (CheckerStep σ)}
    {step : CheckerStep σ} (hk : Recalls level k before) (hstep : Follows k k' step) :
    (step.lookups = [] ∧ step.found? = none) ∨
      (firstTime step.query.subject before = none ∧ step.found?.isSome) := by
  obtain hnone | hsome := hstep.advances.single
  . exact .inl ⟨hnone, lookup?_of_still hnone⟩
  . cases hsubject : step.query.subject with
    | other address =>
      rw [hsubject] at hsome
      cases hsome
    | file path =>
      cases hknown : k.modificationTimes.get? (.file path) with
      | some m =>
        have hnone := hstep.advances.quiet path m hsubject hknown
        exact .inl ⟨hnone, lookup?_of_still hnone⟩
      | none =>
        have htimes := hk.times path
        rw [hknown] at htimes
        right
        refine ⟨?_, hsome⟩
        unfold firstTime
        rw [← htimes]
        rfl

theorem length_answers_existence_le {level : CheckLevel} {k : Checker}
    {steps : List (CheckerStep σ)} (hk : Recalls level k steps) (uri : DocumentUri) :
    (answers (existence? uri) steps).length ≤ 1 := by
  cases uri with
  | file path =>
    rw [← hk.existence path]
    exact Option.length_toList_le
  | other address =>
    rw [answers_existence_other]
    exact Nat.zero_le 1

theorem length_answers_edits_le {level : CheckLevel} {k : Checker}
    {steps : List (CheckerStep σ)} (hk : Recalls level k steps) (uri : DocumentUri) :
    (answers (edits? uri) steps).length ≤ 1 := by
  rw [← hk.edits uri]
  exact Option.length_toList_le

theorem Follows.judges_first {level : CheckLevel} {k k' : Checker} {past : List (CheckerStep σ)}
    {step : CheckerStep σ} {l : Location} (hk : Recalls level k past) (hstep : Follows k k' step)
    (hk' : Recalls level k' (past ++ [step])) (hquery : step.query = .isFresh l)
    (after : List (CheckerStep σ)) :
    ∃ isSo, step.answer = .verdict isSo ∧
      Judges level l (firstExistence (.ofPathText l.path) (past ++ [step] ++ after))
        (firstEdits (.ofPathText l.path) (past ++ [step] ++ after))
        (firstTime (.ofPathText l.path) (past ++ [step] ++ after))
        step.found? isSo step.reported := by
  obtain ⟨isSo, hanswer, hjudges⟩ := hstep.judges l hquery
  rw [hk.level] at hjudges
  refine ⟨isSo, hanswer, hjudges.mono ?_ ?_ ?_⟩
  . intro b hb
    rw [firstExistence, answers_append]
    exact head?_of_recalled _ (hk'.existence _) hb
  . intro b hb
    rw [firstEdits, answers_append]
    exact head?_of_recalled _ (hk'.edits _) hb
  . intro t ht
    rw [firstTime, times_append]
    exact head?_of_recalled _ (hk'.times _) ht

/--
However the machine changes: what a checker answers about a location is judged by the first answers
to whether its file exists and has unsaved edits and by the first look-up of its time that did not
fail. Both questions are put once for each document, and a time is looked up only until it is known.
-/
theorem one_snapshot (host : Host σ) (level : CheckLevel) (s : σ)
    (queries : List (CheckerQuery σ)) :
    let steps := history host queries ⟨.ofLevel level, ⟨(s, []), []⟩⟩
    steps.map (·.query) = queries ∧
    steps.map (fun step => (step.answer, step.reported))
      = replies host queries ⟨.ofLevel level, ⟨s, []⟩⟩ ∧
    (∀ before step after l, steps = before ++ step :: after → step.query = .isFresh l →
      ∃ isSo, step.answer = .verdict isSo ∧
        Judges level l (firstExistence (.ofPathText l.path) steps)
          (firstEdits (.ofPathText l.path) steps) (firstTime (.ofPathText l.path) steps)
          step.found? isSo step.reported) ∧
    (∀ before step after, steps = before ++ step :: after →
      (step.lookups = [] ∧ step.found? = none) ∨
        (firstTime step.query.subject before = none ∧ step.found?.isSome)) ∧
    (∀ uri, (answers (existence? uri) steps).length ≤ 1) ∧
    ∀ uri, (answers (edits? uri) steps).length ≤ 1 := by
  intro steps
  have hstart : Recalls level (Checker.ofLevel level) ([] : List (CheckerStep σ)) :=
    recalls_ofLevel level
  obtain ⟨last, hlast⟩ := recalls_history host queries ⟨.ofLevel level, ⟨(s, []), []⟩⟩ hstart
  refine ⟨map_query_history host queries _, map_history host queries _, ?_, ?_, ?_, ?_⟩
  . intro before step after l hsplit hquery
    obtain ⟨k, k', hk, hstep, hk'⟩ := history_split host queries _ hstart hsplit
    have hsteps : steps = before ++ [step] ++ after := by
      rw [hsplit, List.append_assoc]
      rfl
    rw [hsteps]
    exact hstep.judges_first hk hk' hquery after
  . intro before step after hsplit
    obtain ⟨k, k', hk, hstep, _⟩ := history_split host queries _ hstart hsplit
    exact hstep.lookups hk
  . exact length_answers_existence_le hlast
  . exact length_answers_edits_le hlast

end Checker

end FreshIndex
