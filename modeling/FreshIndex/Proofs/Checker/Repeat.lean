import FreshIndex.Proofs.Checker.Growth
import FreshIndex.Proofs.Checker.Links
import FreshIndex.Proofs.Checker.Steps

/-!
This module contains what a checker does when it is asked about a location again. It gives its first
answer without asking anybody if it remembers all that this answer rests on. Of a look-up that has
failed nothing is remembered.
-/

namespace FreshIndex

open Observation

variable {σ α : Type}

/-- What is said of a run on a machine that keeps what it answers holds on the machine itself. -/
theorem Observes.ends {observed : StateM (Checking (σ × List Observation)) α}
    {act : StateM (Checking σ) α} {c : Checker}
    {Post : α → Checker → List Observation → List Diagnostic → Prop}
    (h : Observes observed act c Post) (w : World σ) :
    ∃ os ds, (act ⟨c, w⟩).2.world.diagnostics = w.diagnostics ++ ds ∧
      Post (act ⟨c, w⟩).1 (act ⟨c, w⟩).2.checker os ds := by
  obtain ⟨hanswer, hforget, os, ds, _, htold, hpost⟩ := h ⟨(w.state, []), w.trace⟩
  change _ = (act ⟨c, w⟩).1 at hanswer
  change _ = (act ⟨c, w⟩).2 at hforget
  rw [← hanswer, ← hforget]
  exact ⟨os, ds, htold, hpost⟩

namespace Checker

variable {host : Host σ} {c c' : Checker} {uri : DocumentUri} {l : Location} {answer : Bool}
  {w : World σ}

/-- What a checker says of unsaved edits without asking, if it can. -/
def knownEdits? (c : Checker) (uri : DocumentUri) : Option Bool :=
  if c.level.asksEditor then c.unsavedEdits.get? uri else some false

/-- What a checker says of a location without asking, if it can. -/
def settled? (c : Checker) (l : Location) : Option Bool :=
  let uri := DocumentUri.ofPathText l.path
  if c.level = .deletedFiles then c.existence.get? uri
  else
    (c.knownEdits? uri).bind fun isEdited =>
      if isEdited then some false
      else (c.modificationTimes.get? uri).map (·.isAtMost l.timestamp)

theorem settled?_of_edited (hlevel : c.level ≠ .deletedFiles)
    (hedits : c.knownEdits? (.ofPathText l.path) = some true) : c.settled? l = some false := by
  rw [settled?, if_neg hlevel, hedits]
  rfl

theorem settled?_of_time {time : ModificationTime} (hlevel : c.level ≠ .deletedFiles)
    (hedits : c.knownEdits? (.ofPathText l.path) = some false)
    (htime : c.modificationTimes.get? (.ofPathText l.path) = some time) :
    c.settled? l = some (time.isAtMost l.timestamp) := by
  rw [settled?, if_neg hlevel, hedits, htime]
  rfl

section

variable {k : Checking σ}

theorem leads_fileExists_of_known (h : k.checker.existence.get? uri = some answer) :
    Leads (· = k) (fileExists host uri) answer (· = k) := by
  unfold fileExists
  apply Leads.get_bind
  rintro _ rfl
  rw [h]
  exact Leads.pure

theorem leads_hasUnsavedEdits_of_known (h : k.checker.knownEdits? uri = some answer) :
    Leads (· = k) (hasUnsavedEdits host uri) answer (· = k) := by
  unfold knownEdits? at h
  unfold hasUnsavedEdits
  apply Leads.get_bind
  rintro _ rfl
  dsimp only
  split
  . next hasks =>
    rw [if_pos hasks] at h
    rw [h]
    exact Leads.pure
  . next hasks =>
    rw [if_neg hasks, Option.some.injEq] at h
    rw [← h]
    exact Leads.pure

theorem leads_modificationTime_of_known {time : ModificationTime}
    (h : k.checker.modificationTimes.get? uri = some time) :
    Leads (· = k) (modificationTime host uri) (.ok time) (· = k) := by
  unfold modificationTime
  apply Leads.get_bind
  rintro _ rfl
  rw [h]
  exact Leads.pure

theorem leads_isFresh_of_settled (h : k.checker.settled? l = some answer) :
    Leads (· = k) (isFresh host l) answer (· = k) := by
  unfold settled? at h
  unfold isFresh
  apply Leads.get_bind
  rintro _ rfl
  split
  . next hlevel =>
    rw [if_pos hlevel] at h
    exact leads_fileExists_of_known h
  . next hlevel =>
    rw [if_neg hlevel, Option.bind_eq_some_iff] at h
    obtain ⟨isEdited, hedits, h⟩ := h
    apply Leads.bind (leads_hasUnsavedEdits_of_known hedits)
    cases isEdited with
    | true =>
      rw [if_pos rfl, Option.some.injEq] at h
      rw [← h]
      exact Leads.pure
    | false =>
      rw [if_neg Bool.false_ne_true, Option.map_eq_some_iff] at h
      obtain ⟨time, htime, rfl⟩ := h
      apply Leads.bind (leads_modificationTime_of_known htime)
      cases time with
      | fileDoesNotExist => exact Leads.pure
      | date modified => exact Leads.pure

end

section

variable (hlevel : c'.level = c.level) (hgrows : c.GrowsTo c')
include hlevel hgrows

theorem knownEdits?_of_growsTo (h : c.knownEdits? uri = some answer) :
    c'.knownEdits? uri = some answer := by
  unfold knownEdits? at h ⊢
  rw [hlevel]
  split
  . next hasks =>
    rw [if_pos hasks] at h
    exact hgrows.unsavedEdits.get?_eq h
  . next hasks =>
    rw [if_neg hasks] at h
    exact h

theorem settled?_of_growsTo (h : c.settled? l = some answer) : c'.settled? l = some answer := by
  unfold settled? at h ⊢
  rw [hlevel]
  split
  . next hdeleted =>
    rw [if_pos hdeleted] at h
    exact hgrows.existence.get?_eq h
  . next hdeleted =>
    rw [if_neg hdeleted, Option.bind_eq_some_iff] at h
    rw [Option.bind_eq_some_iff]
    obtain ⟨isEdited, hedits, h⟩ := h
    refine ⟨isEdited, knownEdits?_of_growsTo hlevel hgrows hedits, ?_⟩
    cases isEdited with
    | true => exact h
    | false =>
      rw [if_neg Bool.false_ne_true, Option.map_eq_some_iff] at h ⊢
      obtain ⟨time, htime, hanswer⟩ := h
      exact ⟨time, hgrows.modificationTimes.get?_eq htime, hanswer⟩

end

/-- The answer rests on the time of the file, and a look-up of it has failed. -/
structure IsUndecided (c : Checker) (l : Location) : Prop where
  level : c.level ≠ .deletedFiles
  unedited : c.knownEdits? (.ofPathText l.path) = some false
  unknown : c.modificationTimes.get? (.ofPathText l.path) = none

theorem Advances.unknown_of_failure {path : FilePath} {os : List Observation} {e : IoError}
    (h : Advances (.file path) c c' os) (hfound : lookup? (.file path) os = some (.error e)) :
    c'.modificationTimes.get? (.file path) = none := by
  have hunknown : c.modificationTimes.get? (.file path) = none := by
    cases hknown : c.modificationTimes.get? (.file path) with
    | none => rfl
    | some time =>
      rw [lookup?_of_still (h.quiet path time rfl hknown)] at hfound
      cases hfound
  have htimes := h.times path
  unfold found? at htimes
  rw [hunknown, if_pos rfl, hfound] at htimes
  exact Option.toList_eq_nil_iff.mp htimes

theorem settled?_or_isUndecided (host : Host σ) (l : Location) (c : Checking σ) :
    let run := isFresh host l c
    (run.2.world.diagnostics = c.world.diagnostics ∧ run.2.checker.settled? l = some run.1) ∨
      ∃ e, run.2.world.diagnostics = c.world.diagnostics ++ [.locationUndecided l.path e] ∧
        run.1 = true ∧ run.2.checker.IsUndecided l := by
  intro run
  obtain ⟨os, ds, htold, hadvances, hjudges⟩ :=
    (observes_isFresh host c.checker l).ends c.world
  change run.2.world.diagnostics = _ at htold
  change Advances _ c.checker run.2.checker os at hadvances
  rw [htold]
  by_cases hdeleted : c.checker.level = .deletedFiles
  . rw [Judges, if_pos hdeleted] at hjudges
    obtain ⟨hexistence, rfl⟩ := hjudges
    refine .inl ⟨List.append_nil _, ?_⟩
    rw [settled?, hadvances.level, if_pos hdeleted]
    exact hexistence
  . rw [Judges, if_neg hdeleted] at hjudges
    have hlevel : run.2.checker.level ≠ .deletedFiles := by
      rw [hadvances.level]
      exact hdeleted
    split at hjudges
    . next hedited =>
      obtain ⟨hanswer, rfl⟩ := hjudges
      refine .inl ⟨List.append_nil _, ?_⟩
      have hedits : run.2.checker.knownEdits? (.ofPathText l.path) = some true := by
        rw [knownEdits?, hadvances.level, if_pos hedited.1]
        exact hedited.2
      rw [settled?_of_edited hlevel hedits]
      exact congrArg some hanswer.symm
    . next hedited =>
      obtain ⟨hunedited, hjudges⟩ := hjudges
      have hedits : run.2.checker.knownEdits? (.ofPathText l.path) = some false := by
        rw [knownEdits?, hadvances.level]
        split
        . next hasks => exact hunedited hasks
        . rfl
      unfold JudgesByTime at hjudges
      split at hjudges
      . next e hfound =>
        obtain ⟨hanswer, rfl⟩ := hjudges
        exact .inr ⟨e, rfl, hanswer, hlevel, hedits, hadvances.unknown_of_failure hfound⟩
      . obtain ⟨time, htime, hanswer, rfl⟩ := hjudges
        refine .inl ⟨List.append_nil _, ?_⟩
        rw [settled?_of_time hlevel hedits htime]
        exact congrArg some hanswer.symm

/-- The first thing that a search asks for is the path that it starts at. -/
theorem events_latestInChain (host : Host σ) (start : FilePath) (hops : Nat) (path : FilePath)
    (w : World σ) :
    ∃ later, (latestInChain host start hops path w).2.events
      = w.events ++ .call (.stat path) :: later := by
  obtain ⟨links, last, _, final, hlinks, _, hfinal, hevents, _⟩ :=
    asks_latestInChain host start hops path w
  rw [hevents]
  cases hlinks with
  | here =>
    rcases hfinal with rfl | ⟨_, rfl⟩
    . exact ⟨_, rfl⟩
    . exact ⟨_, rfl⟩
  | link _ _ _ => exact ⟨_, rfl⟩

/-- Whether a location counts as up to date once the time of its file was looked up. -/
def countsAsFresh (l : Location) : Except IoError ModificationTime → Bool
  | .ok time => time.isAtMost l.timestamp
  | .error _ => true

theorem isFresh_of_isUndecided (h : c.IsUndecided l) (host : Host σ) (w : World σ) :
    let uri := DocumentUri.ofPathText l.path
    (isFresh host l ⟨c, w⟩).1 = countsAsFresh l (findModificationTime host uri w).1 ∧
      ∃ path later, uri.filePath? = some path ∧
        (isFresh host l ⟨c, w⟩).2.world.events = w.events ++ .call (.stat path) :: later := by
  let path := (FilePath.ofText l.path).normalize
  let search := latestInChain host path maxHops path w
  let found := ModificationTime.ofLatest search.1
  have htime : Leads (· = ⟨c, w⟩) (modificationTime host (.ofPathText l.path)) found
      (· = ⟨c.keepTime (.file path) found, search.2⟩) := by
    rintro _ rfl
    exact Prod.ext_iff.mp (modificationTime_of_unknown host h.unknown)
  have hleads : Leads (· = ⟨c, w⟩) (isFresh host l) (countsAsFresh l found) fun after =>
      ∃ later, after.world.events = search.2.events ++ later := by
    unfold isFresh
    apply Leads.get_bind
    rintro _ rfl
    rw [if_neg h.level]
    apply Leads.bind (leads_hasUnsavedEdits_of_known h.unedited)
    apply Leads.bind htime
    cases found with
    | error e =>
      rintro _ rfl
      exact ⟨rfl, [.diagnostic (.locationUndecided l.path e)], List.reverse_cons⟩
    | ok time =>
      have hends : Leads (· = ⟨c.keepTime (.file path) (.ok time), search.2⟩)
          (pure (time.isAtMost l.timestamp) : StateM (Checking σ) Bool)
          (time.isAtMost l.timestamp) fun after =>
            ∃ later, after.world.events = search.2.events ++ later := by
        rintro _ rfl
        exact ⟨rfl, [], (List.append_nil _).symm⟩
      cases time with
      | fileDoesNotExist => exact hends
      | date modified => exact hends
  obtain ⟨hanswer, rest, hrest⟩ := hleads _ rfl
  obtain ⟨later, hsearch⟩ := events_latestInChain host path maxHops path w
  intro uri
  have hfind : (findModificationTime host uri w).1 = found :=
    congrArg Prod.fst (findModificationTime_file host path w)
  rw [hfind]
  refine ⟨hanswer, path, later ++ rest, rfl, ?_⟩
  rw [hrest, hsearch, List.append_assoc, List.cons_append]

/--
Asked about a location again, a checker gives the answer that it gave and asks nothing if and only
if it reported nothing the first time, also if it has come to remember more in between. If it
reported that the time of the file cannot be found out, it looks it up again and answers by what it
finds then.
-/
theorem isFresh_again (host : Host σ) (l : Location) (c : Checking σ) :
    let first := isFresh host l c
    let uri := DocumentUri.ofPathText l.path
    ((∀ w, isFresh host l ⟨first.2.checker, w⟩ = (first.1, ⟨first.2.checker, w⟩)) ↔
      first.2.world.diagnostics = c.world.diagnostics) ∧
    (first.2.world.diagnostics = c.world.diagnostics →
      ∀ later w, later.level = first.2.checker.level → first.2.checker.GrowsTo later →
        isFresh host l ⟨later, w⟩ = (first.1, ⟨later, w⟩)) ∧
    (first.2.world.diagnostics ≠ c.world.diagnostics →
      first.1 = true ∧
      (∃ e, first.2.world.diagnostics = c.world.diagnostics ++ [.locationUndecided l.path e]) ∧
      ∀ w, (isFresh host l ⟨first.2.checker, w⟩).1
          = countsAsFresh l (findModificationTime host uri w).1 ∧
        ∃ path later, uri.filePath? = some path ∧
          (isFresh host l ⟨first.2.checker, w⟩).2.world.events
            = w.events ++ .call (.stat path) :: later) := by
  intro first uri
  have hrepeat {later : Checker} {w : World σ} (h : later.settled? l = some first.1) :
      isFresh host l ⟨later, w⟩ = (first.1, ⟨later, w⟩) := by
    have hleads : Leads (· = ⟨later, w⟩) (isFresh host l) first.1 (· = ⟨later, w⟩) :=
      leads_isFresh_of_settled h
    obtain ⟨hanswer, hafter⟩ := hleads _ rfl
    exact Prod.ext hanswer hafter
  rcases settled?_or_isUndecided host l c with ⟨htold, hsettled⟩ | ⟨e, htold, hanswer, hundecided⟩
  . refine ⟨⟨fun _ => htold, fun _ w => hrepeat hsettled⟩, ?_, fun h => absurd htold h⟩
    intro _ later w hlevel hgrows
    exact hrepeat (settled?_of_growsTo hlevel hgrows hsettled)
  . have hnew : first.2.world.diagnostics ≠ c.world.diagnostics := by
      rw [htold]
      simp
    refine ⟨⟨?_, fun h => absurd h hnew⟩, fun h => absurd h hnew, fun _ => ?_⟩
    . intro hsame
      obtain ⟨_, path, later, _, hevents⟩ := isFresh_of_isUndecided hundecided host c.world
      rw [hsame] at hevents
      simp at hevents
    . exact ⟨hanswer, ⟨e, htold⟩, isFresh_of_isUndecided hundecided host⟩

/-- A machine that cannot examine a file when it is asked first, and can from then on. -/
def hesitant : Host Bool where
  stat _ asked :=
    (if asked then .ok ⟨⟨100⟩, false⟩ else .error ⟨.named "PermissionDenied", "denied"⟩, true)
  readLink _ asked := (.error ⟨.named "InvalidInput", "not a link"⟩, asked)
  canonicalize path asked := (.ok path, asked)
  pathExists _ asked := (true, asked)
  hasUnsavedEdits _ asked := (false, asked)

/-- The file is looked at twice, and the second answer is another one. -/
theorem isFresh_hesitant :
    let l : Location := ⟨"/f", 1, 1, false, ⟨50⟩⟩
    let first := isFresh hesitant l ⟨.ofLevel .modifiedFiles, ⟨false, []⟩⟩
    let second := isFresh hesitant l first.2
    first.1 = true ∧ second.1 = false ∧
      second.2.world.events = first.2.world.events ++ [.call (.stat (.ofText "/f"))] := by
  decide +kernel

end Checker

end FreshIndex
