import FreshIndex.Proofs.Checker.Advance

/-!
This module contains what each thing that a checker does observes and answers, on a machine that may
answer differently each time.
-/

namespace FreshIndex

open Observation

variable {σ : Type}

/-- Whether a file exists and was not modified after some moment. -/
def ModificationTime.isAtMost (time : ModificationTime) (limit : Timestamp) : Bool :=
  match time with
  | .fileDoesNotExist => false
  | .date modified => modified ≤ limit

namespace Checker

theorem observes_modificationTime (host : Host σ) (c : Checker) (uri : DocumentUri) :
    Observes (modificationTime host.observed uri) (modificationTime host uri) c
      fun found c' os ds => Advances uri c c' os ∧ ds = [] ∧
        match found with
        | .ok time =>
          c'.modificationTimes.get? uri = some time ∧ ∀ e, lookup? uri os ≠ some (.error e)
        | .error e => lookup? uri os = some (.error e) := by
  unfold modificationTime
  apply Observes.get_bind
  intro w
  dsimp only
  cases hknown : c.modificationTimes.get? uri with
  | some time =>
    apply Observes.pure
    refine ⟨.refl, rfl, hknown, ?_⟩
    intro e h
    rw [lookup?_of_still rfl] at h
    cases h
  | none =>
    apply Observes.bind (observes_findModificationTime host c uri)
    rintro found c' os ds ⟨rfl, rfl, hos, hfound⟩
    cases hpath : uri.filePath? with
    | none =>
      simp only [hpath] at hfound
      obtain ⟨rfl, rfl⟩ := hfound
      refine Observes.modify_bind (fun k =>
        { k with modificationTimes := k.modificationTimes.insert uri .fileDoesNotExist }) ?_
      apply Observes.pure
      refine ⟨.insert_gone hpath _, rfl, ?_, ?_⟩
      . rw [Memo.get?_insert, if_pos rfl]
      . intro e h
        rw [lookup?_of_still rfl] at h
        cases h
    | some path =>
      simp only [hpath] at hfound
      cases found with
      | error e =>
        apply Observes.pure
        simp only [List.append_nil, true_and]
        exact ⟨.of_failure hknown hos hfound, hfound⟩
      | ok time =>
        refine Observes.modify_bind (fun k =>
          { k with modificationTimes := k.modificationTimes.insert uri time }) ?_
        apply Observes.pure
        simp only [List.append_nil, true_and]
        refine ⟨.insert_time hknown hos hfound, ?_, ?_⟩
        . rw [Memo.get?_insert, if_pos rfl]
        . intro e h
          rw [hfound] at h
          cases h

theorem observes_fileExists (host : Host σ) (c : Checker) (subject uri : DocumentUri) :
    Observes (fileExists host.observed uri) (fileExists host uri) c
      fun answer c' os ds => Advances subject c c' os ∧ ds = [] ∧
        c'.existence.get? uri = some answer ∧ os.filter isOfLookup = [] := by
  unfold fileExists
  apply Observes.get_bind
  intro w
  dsimp only
  cases hknown : c.existence.get? uri with
  | some answer =>
    apply Observes.pure
    exact ⟨.refl, rfl, hknown, rfl⟩
  | none =>
    cases uri with
    | file path =>
      apply Observes.ask_bind (fun answer => [.pathExists path answer]) rfl
      intro answer
      refine Observes.modify_bind (fun k =>
        { k with existence := k.existence.insert (.file path) answer }) ?_
      apply Observes.pure
      refine ⟨.insert_existence hknown rfl, rfl, ?_, rfl⟩
      rw [Memo.get?_insert, if_pos rfl]
    | other address =>
      refine Observes.modify_bind (fun k =>
        { k with existence := k.existence.insert (.other address) false }) ?_
      apply Observes.pure
      refine ⟨.insert_existence hknown rfl, rfl, ?_, rfl⟩
      rw [Memo.get?_insert, if_pos rfl]

theorem observes_hasUnsavedEdits (host : Host σ) (c : Checker) (subject uri : DocumentUri) :
    Observes (hasUnsavedEdits host.observed uri) (hasUnsavedEdits host uri) c
      fun answer c' os ds => Advances subject c c' os ∧ ds = [] ∧
        (if c.level.asksEditor then c'.unsavedEdits.get? uri = some answer else answer = false) ∧
        os.filter isOfLookup = [] := by
  unfold hasUnsavedEdits
  apply Observes.get_bind
  intro w
  dsimp only
  cases c.level.asksEditor with
  | false =>
    apply Observes.pure
    exact ⟨.refl, rfl, rfl, rfl⟩
  | true =>
    simp only [if_true]
    cases hknown : c.unsavedEdits.get? uri with
    | some answer =>
      apply Observes.pure
      exact ⟨.refl, rfl, hknown, rfl⟩
    | none =>
      apply Observes.ask_bind (fun answer => [.unsavedEdits uri answer]) rfl
      intro answer
      refine Observes.modify_bind (fun k =>
        { k with unsavedEdits := k.unsavedEdits.insert uri answer }) ?_
      apply Observes.pure
      refine ⟨.insert_edits hknown, rfl, ?_, rfl⟩
      rw [Memo.get?_insert, if_pos rfl]

/--
An answer by the time of a file: if the look-up for this answer failed, a fault is reported, and the
location counts as up to date.
-/
def JudgesByTime (l : Location) (time : Option ModificationTime)
    (found : Option (Except IoError ModificationTime)) (answer : Bool) (ds : List Diagnostic) :
    Prop :=
  match found with
  | some (.error e) => answer = true ∧ ds = [.locationUndecided l.path e]
  | _ => ∃ known, time = some known ∧ answer = known.isAtMost l.timestamp ∧ ds = []

/--
An answer about a location, given that its file was said to exist, to hold unsaved edits and to be
of some time, and what was found when its time was looked up for this answer.
-/
def Judges (level : CheckLevel) (l : Location) (existence edits : Option Bool)
    (time : Option ModificationTime) (found : Option (Except IoError ModificationTime))
    (answer : Bool) (ds : List Diagnostic) : Prop :=
  if level = .deletedFiles then existence = some answer ∧ ds = []
  else if level.asksEditor = true ∧ edits = some true then answer = false ∧ ds = []
  else
    (level.asksEditor = true → edits = some false) ∧ JudgesByTime l time found answer ds

theorem judgesByTime_of_known {l : Location} {time : Option ModificationTime}
    {known : ModificationTime} {found : Option (Except IoError ModificationTime)}
    (hfound : ∀ e, found ≠ some (.error e)) (htime : time = some known) :
    JudgesByTime l time found (known.isAtMost l.timestamp) [] := by
  unfold JudgesByTime
  split
  . rename_i e
    exact absurd rfl (hfound e)
  . exact ⟨known, htime, rfl, rfl⟩

theorem eq_some_of_toList {α : Type} {o : Option α} {a : α} {rest : List α}
    (h : o.toList = a :: rest) : o = some a := by
  cases o with
  | none => cases h
  | some b =>
    cases h
    rfl

theorem Advances.edits_of_known {subject uri : DocumentUri} {c c' : Checker}
    {os : List Observation} {answer : Bool} (h : Advances subject c c' os)
    (hknown : c.unsavedEdits.get? uri = some answer) :
    c'.unsavedEdits.get? uri = some answer := by
  have hedits := h.edits uri
  rw [hknown] at hedits
  exact eq_some_of_toList hedits

theorem observes_isFresh (host : Host σ) (c : Checker) (l : Location) :
    Observes (isFresh host.observed l) (isFresh host l) c
      fun answer c' os ds => Advances (.ofPathText l.path) c c' os ∧
        Judges c.level l (c'.existence.get? (.ofPathText l.path))
          (c'.unsavedEdits.get? (.ofPathText l.path))
          (c'.modificationTimes.get? (.ofPathText l.path))
          (lookup? (.ofPathText l.path) os) answer ds := by
  unfold isFresh Judges
  apply Observes.get_bind
  intro w
  dsimp only
  by_cases hlevel : c.level = .deletedFiles
  . simp only [hlevel, if_true]
    apply Observes.weaken (observes_fileExists host c (.ofPathText l.path) (.ofPathText l.path))
    rintro answer c' os ds ⟨hadvances, rfl, hanswer, _⟩
    exact ⟨hadvances, hanswer, rfl⟩
  . simp only [hlevel, if_false]
    apply Observes.bind (observes_hasUnsavedEdits host c (.ofPathText l.path) (.ofPathText l.path))
    rintro isEdited c' os ds ⟨hadvances, rfl, hedits, hstill⟩
    cases isEdited with
    | true =>
      have hasks : c.level.asksEditor = true := by
        cases hasks : c.level.asksEditor with
        | true => rfl
        | false => simp [hasks] at hedits
      rw [if_pos hasks] at hedits
      simp only [if_true]
      apply Observes.pure
      simp only [List.append_nil, hasks, hedits, and_self, if_true, and_true]
      exact hadvances
    | false =>
      simp only [Bool.false_eq_true, if_false]
      apply Observes.bind (observes_modificationTime host c' (.ofPathText l.path))
      rintro found c'' os' ds' ⟨hadvances', rfl, hfound⟩
      have hall := hadvances.trans hstill hadvances'
      -- The look-up of the time has not touched what the editor was found to say.
      have hknown : c.level.asksEditor = true →
          c''.unsavedEdits.get? (.ofPathText l.path) = some false := by
        intro hasks
        rw [if_pos hasks] at hedits
        exact hadvances'.edits_of_known hedits
      have hnot : ¬ (c.level.asksEditor = true ∧
          c''.unsavedEdits.get? (.ofPathText l.path) = some true) := by
        rintro ⟨hasks, hedited⟩
        rw [hknown hasks] at hedited
        cases hedited
      cases found with
      | error e =>
        apply Observes.report_bind
        apply Observes.pure
        simp only [List.append_nil, List.nil_append, lookup?_append_of_still hstill, hfound,
          if_neg hnot]
        exact ⟨hall, hknown, rfl, rfl⟩
      | ok time =>
        obtain ⟨htime, hsucceeded⟩ := hfound
        rw [← lookup?_append_of_still hstill] at hsucceeded
        have hjudged := judgesByTime_of_known (l := l) hsucceeded htime
        cases time with
        | fileDoesNotExist =>
          apply Observes.pure
          simp only [List.append_nil, if_neg hnot]
          exact ⟨hall, hknown, hjudged⟩
        | date modified =>
          apply Observes.pure
          simp only [List.append_nil, if_neg hnot]
          exact ⟨hall, hknown, hjudged⟩

theorem observes_latestUnitDate (index : RawIndex σ) (c : Checker) (path : String) :
    Observes (Checking.inWorld (index.observed.latestUnitDate path))
      (Checking.inWorld (index.latestUnitDate path)) c fun _ c' os _ => c' = c ∧ os = [] := by
  unfold RawIndex.latestUnitDate World.askIndex
  simp only [inWorld_bind]
  apply Observes.ask_bind (fun _ => []) rfl
  intro reply
  apply Observes.bind (Observes.emitAll reply.events)
  rintro _ c' os ds ⟨rfl, rfl⟩
  apply Observes.pure
  exact ⟨rfl, rfl⟩

theorem observes_hasFreshUnit (host : Host σ) (index : RawIndex σ) (c : Checker)
    (file : DocumentUri) (mainFile : Option DocumentUri) :
    Observes (hasFreshUnit host.observed index.observed file mainFile)
      (hasFreshUnit host index file mainFile) c fun _ c' os _ => Advances file c c' os := by
  unfold hasFreshUnit
  apply Observes.get_bind
  intro w
  dsimp only
  by_cases hlevel : c.level = .deletedFiles
  . simp only [hlevel, if_true]
    exact Observes.pure .refl
  . simp only [hlevel, if_false]
    apply Observes.bind (observes_hasUnsavedEdits host c file file)
    rintro isEdited c' os ds ⟨hadvances, _, _, hstill⟩
    cases isEdited with
    | true =>
      apply Observes.pure
      simp only [List.append_nil]
      exact hadvances
    | false =>
      simp only [Bool.false_eq_true, if_false]
      cases (mainFile.getD file).filePath? with
      | none =>
        apply Observes.pure
        simp only [List.append_nil]
        exact hadvances
      | some unitPath =>
        apply Observes.ask_bind (fun answer => [.canonicalize unitPath answer]) rfl
        intro answer
        -- The unit may be of another file, but its real path is not remembered for any.
        have hasked : Advances file c c' (os ++ [.canonicalize unitPath answer]) :=
          hadvances.trans hstill (.of_canonicalize unitPath answer)
        have hstill' :
            (os ++ [Observation.canonicalize unitPath answer]).filter isOfLookup = [] := by
          rw [List.filter_append, hstill]
          rfl
        cases answer with
        | error e =>
          by_cases hkind : e.kind = .notFound
          . simp only [hkind, if_true]
            exact Observes.pure hasked
          . simp only [hkind, if_false]
            apply Observes.report_bind
            exact Observes.pure hasked
        | ok realPath =>
          apply Observes.bind (observes_latestUnitDate index c' realPath.text)
          rintro unitDate c' os' ds' ⟨rfl, rfl⟩
          cases unitDate with
          | none => exact Observes.pure hasked
          | some unitDate =>
            apply Observes.bind (observes_modificationTime host c' file)
            rintro found c'' os'' ds'' ⟨hadvances', _⟩
            have hall := hasked.trans hstill' hadvances'
            rw [List.append_assoc, ← List.append_nil os''] at hall
            cases found with
            | error e =>
              apply Observes.report_bind
              exact Observes.pure hall
            | ok time =>
              cases time with
              | fileDoesNotExist => exact Observes.pure hall
              | date modified => exact Observes.pure hall

theorem observes_fileHasUnsavedEdits (host : Host σ) (c : Checker) (uri : DocumentUri) :
    Observes (fileHasUnsavedEdits host.observed uri) (fileHasUnsavedEdits host uri) c
      fun _ c' os _ => Advances uri c c' os := by
  unfold fileHasUnsavedEdits
  apply Observes.get_bind
  intro w
  dsimp only
  cases c.level.asksEditor with
  | true =>
    apply Observes.weaken (observes_hasUnsavedEdits host c uri uri)
    rintro answer c' os ds ⟨hadvances, _⟩
    exact hadvances
  | false =>
    apply Observes.report_bind
    exact Observes.pure .refl

end Checker

end FreshIndex
