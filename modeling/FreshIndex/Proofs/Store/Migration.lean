import Mathlib.Data.List.Forall2
import FreshIndex.Proofs.Store.Connection
import FreshIndex.Store.Migration

/-!
This module contains the proof that a migration goes step by step, whatever is refused on the way. A
step that succeeds leaves the next version and an entry in the history. Of one that fails, nothing
but an entry is left.
-/

namespace FreshIndex.Store

/-! ### Entries of the history -/

namespace Catalog

variable {c c' : Catalog} {given : Circumstances} {source target : Int} {status : StepStatus}

/--
The tables with the version and the history, if they are there, are as the statements of the schema
make them.
-/
structure HasOwnRecords (c : Catalog) : Prop where
  version : c.isForeign .indexMeta = false
  history : c.isForeign .migrationHistory = false

theorem HasOwnRecords.congr (h : c.HasOwnRecords) (hforeign : c'.foreign = c.foreign) :
    c'.HasOwnRecords := by
  obtain ⟨hversion, hhistory⟩ := h
  unfold isForeign at hversion hhistory
  rw [← hforeign] at hversion hhistory
  exact ⟨hversion, hhistory⟩

/-- All that is done is to put an entry behind the others. -/
def Records (c : Catalog) (source : Int) (status : StepStatus) (c' : Catalog) : Prop :=
  ∃ t id moment, c.migrationHistory = some t ∧ (∀ r ∈ t.rows, r.id < id) ∧ t.lastId < id ∧
    c' = c.withDatabase (c.setTable .migrationHistory
      (some ⟨t.rows ++ [Database.historyRow id source moment status], id⟩))

theorem perform_recordStep (hown : c.HasOwnRecords) (hascending : c.IsAscending)
    (h : c.perform given (.recordStep source (source + 1) status) = .ok c') :
    c.Records source status c' := by
  unfold perform at h
  obtain ⟨db, hrecord, rfl⟩ := enter_eq_ok hown.history h
  obtain ⟨t, id, ht, hgreater, hlast, rfl⟩ := Database.recordStep_eq_ok hascending hrecord
  exact ⟨t, id, given.moment, ht, hgreater, hlast, rfl⟩

theorem perform_setVersion (hown : c.HasOwnRecords) (hlow : -2147483648 ≤ target)
    (hhigh : target ≤ 2147483647) (h : c.perform given (.setVersion target) = .ok c') :
    ∃ t, c' = c.withDatabase (c.setTable .indexMeta (some t)) ∧
      (c.IsAscending → t.IsAscending) ∧ c'.version = target := by
  unfold perform at h
  obtain ⟨db, hset, rfl⟩ := enter_eq_ok hown.version h
  obtain ⟨t, rfl, hascending, hversion⟩ := Database.setVersion_eq_ok hset hlow hhigh
  refine ⟨t, rfl, hascending, ?_⟩
  rw [version_of_isForeign (by exact hown.version)]
  exact hversion

namespace Records

theorem historyRows (h : c.Records source status c') :
    ∃ id moment,
      c'.historyRows = c.historyRows ++ [Database.historyRow id source moment status] := by
  obtain ⟨t, id, moment, ht, _, _, rfl⟩ := h
  refine ⟨id, moment, ?_⟩
  unfold Database.historyRows
  rw [ht]
  rfl

theorem table? {name : TableName} (h : c.Records source status c')
    (hname : name ≠ .migrationHistory) : c'.table? name = c.table? name := by
  obtain ⟨t, id, moment, _, _, _, rfl⟩ := h
  rw [toDatabase_withDatabase, Database.table?_setTable, if_neg hname]

theorem hasOwnRecords (h : c.Records source status c') (hown : c.HasOwnRecords) :
    c'.HasOwnRecords := by
  obtain ⟨_, _, _, _, _, _, rfl⟩ := h
  exact hown.congr rfl

theorem version (h : c.Records source status c') (hown : c.HasOwnRecords) :
    c'.version = c.version := by
  rw [version_of_isForeign (h.hasOwnRecords hown).version, version_of_isForeign hown.version]
  obtain ⟨_, _, _, _, _, _, rfl⟩ := h
  rfl

theorem isAscending (h : c.Records source status c') (hascending : c.IsAscending) :
    c'.IsAscending := by
  obtain ⟨t, id, moment, ht, hgreater, _, rfl⟩ := h
  have hrows := hascending .migrationHistory t ht
  apply hascending.withTable
  refine List.pairwise_append.mpr ⟨hrows, List.pairwise_singleton _ _, ?_⟩
  intro r hr s hs
  rw [List.mem_singleton.mp hs]
  exact Int64.le_of_lt (hgreater r hr)

end Records

end Catalog

/-! ### Steps -/

/-- The versions from one up to another, this one left out. -/
def versions (source target : Int) : List Int :=
  (List.range (target - source).toNat).map fun n : Nat => source + n

theorem versions_self (source : Int) : versions source source = [] := by
  rw [versions, Int.sub_self]
  rfl

theorem versions_succ (source : Int) : versions source (source + 1) = [source] := by
  have hone : (source + 1 - source).toNat = 1 := by omega
  rw [versions, hone]
  simp

theorem versions_append {between : Int} (hsource : source ≤ between) (htarget : between ≤ target) :
    versions source between ++ versions between target = versions source target := by
  have hlength : (target - source).toNat
      = (between - source).toNat + (target - between).toNat := by omega
  unfold versions
  rw [hlength, List.range_add, List.map_append, List.map_map]
  apply congrArg
  apply List.map_congr_left
  intro n _
  rw [Function.comp_apply]
  omega

namespace Catalog

/--
What successful steps make of a database: it is of another version, and its history has one more
entry for each step, in their order. Indexes may be added to it, but nothing else is touched.
-/
structure IsMigrated (c : Catalog) (source target : Int) (c' : Catalog) : Prop where
  version : c'.version = target
  history : ∃ rows, c'.historyRows = c.historyRows ++ rows ∧
    List.Forall₂ (fun k r => ∃ id moment, r = Database.historyRow id k moment .success)
      (versions source target) rows
  tables : ∀ name, name ≠ .indexMeta → name ≠ .migrationHistory →
    c'.table? name = c.table? name
  indexes : c.indexes <+: c'.indexes
  foreign : c'.foreign = c.foreign
  others : c'.others = c.others
  isLocked : c'.isLocked = c.isLocked
  hasWriteAheadLog : c'.hasWriteAheadLog = c.hasWriteAheadLog

namespace IsMigrated

variable {source between target : Int} {c c' c'' : Catalog}

theorem refl (h : c.version = source) : IsMigrated c source source c where
  version := h
  history := by
    rw [versions_self]
    exact ⟨[], (List.append_nil _).symm, .nil⟩
  tables _ _ _ := rfl
  indexes := List.prefix_rfl
  foreign := rfl
  others := rfl
  isLocked := rfl
  hasWriteAheadLog := rfl

theorem trans (h : IsMigrated c source between c') (h' : IsMigrated c' between target c'')
    (hsource : source ≤ between) (htarget : between ≤ target) : IsMigrated c source target c'' where
  version := h'.version
  history := by
    obtain ⟨rows, hrows, hsuccesses⟩ := h.history
    obtain ⟨rows', hrows', hsuccesses'⟩ := h'.history
    refine ⟨rows ++ rows', ?_, ?_⟩
    . rw [hrows', hrows, List.append_assoc]
    . rw [← versions_append hsource htarget]
      exact List.rel_append hsuccesses hsuccesses'
  tables name hmeta hhistory := by
    rw [h'.tables name hmeta hhistory, h.tables name hmeta hhistory]
  indexes := h.indexes.trans h'.indexes
  foreign := h'.foreign.trans h.foreign
  others := h'.others.trans h.others
  isLocked := h'.isLocked.trans h.isLocked
  hasWriteAheadLog := h'.hasWriteAheadLog.trans h.hasWriteAheadLog

end IsMigrated

/-- Nothing but indexes was added. -/
def Extends (c c' : Catalog) : Prop :=
  ∃ indexes, c' = { c with indexes := c.indexes ++ indexes }

theorem Extends.refl (c : Catalog) : c.Extends c :=
  ⟨[], by rw [List.append_nil]⟩

theorem Extends.createIndex {c c' c'' : Catalog} {given : Circumstances} {index : IndexName}
    (h : c.Extends c') (hperform : c'.perform given (.run (.createIndex index)) = .ok c'') :
    c.Extends c'' := by
  obtain ⟨indexes, rfl⟩ := h
  unfold perform at hperform
  obtain ⟨_, rfl⟩ := run_eq_ok hperform
  unfold ensure
  split
  . exact ⟨indexes, rfl⟩
  . exact ⟨indexes ++ [index], by rw [add, addIndex, List.append_assoc]⟩

/-- Of a step all is done but its entry in the history. -/
def IsUnrecorded (c : Catalog) (target : Int) (c' : Catalog) : Prop :=
  ∃ c₁ t, c.Extends c₁ ∧ c' = c₁.withDatabase (c₁.setTable .indexMeta (some t)) ∧
    (c.IsAscending → t.IsAscending) ∧ c'.version = target

theorem Extends.setVersion {c c' c'' : Catalog} {given : Circumstances} {target : Int}
    (h : c.Extends c') (hown : c.HasOwnRecords) (hlow : -2147483648 ≤ target)
    (hhigh : target ≤ 2147483647)
    (hperform : c'.perform given (.setVersion target) = .ok c'') : c.IsUnrecorded target c'' := by
  have hown' : c'.HasOwnRecords := by
    obtain ⟨_, rfl⟩ := h
    exact hown.congr rfl
  obtain ⟨t, hc, ht, hversion⟩ := perform_setVersion hown' hlow hhigh hperform
  refine ⟨c', t, h, hc, ?_, hversion⟩
  intro hascending
  obtain ⟨_, rfl⟩ := h
  exact ht (hascending.withIndexes _)

theorem IsUnrecorded.hasOwnRecords {c c' : Catalog} {target : Int} (h : c.IsUnrecorded target c')
    (hown : c.HasOwnRecords) : c'.HasOwnRecords := by
  obtain ⟨_, _, ⟨_, rfl⟩, rfl, _⟩ := h
  exact hown.congr rfl

theorem IsUnrecorded.isAscending {c c' : Catalog} {target : Int} (h : c.IsUnrecorded target c')
    (hascending : c.IsAscending) : c'.IsAscending := by
  obtain ⟨_, _, ⟨_, rfl⟩, rfl, ht, _⟩ := h
  exact (hascending.withIndexes _).withTable (ht hascending)

theorem IsUnrecorded.isMigrated {c c' c'' : Catalog} {source : Int}
    (h : c.IsUnrecorded (source + 1) c') (hown : c.HasOwnRecords)
    (hrecords : c'.Records source .success c'') : IsMigrated c source (source + 1) c'' := by
  have hversion := hrecords.version (h.hasOwnRecords hown)
  obtain ⟨id, moment, hrows⟩ := hrecords.historyRows
  obtain ⟨_, t, ⟨indexes, rfl⟩, rfl, _, hset⟩ := h
  constructor
  . rw [hversion, hset]
  . rw [versions_succ]
    exact ⟨_, hrows, .cons ⟨id, moment, rfl⟩ .nil⟩
  . intro name hmeta hhistory
    rw [hrecords.table? hhistory, toDatabase_withDatabase, Database.table?_setTable, if_neg hmeta]
    exact Database.table?_withIndexes _ _ _
  all_goals obtain ⟨_, _, _, _, _, _, rfl⟩ := hrecords
  . exact List.prefix_append _ _
  . rfl
  . rfl
  . rfl
  . rfl

end Catalog

open Session

variable {σ : Type} {m : Machine σ} {before : Catalog} {source : Int}

theorem createIndex_runs (index : IndexName) :
    Runs (IsBehind stepName before before.Extends)
      (execute m (.change (.run (.createIndex index)))) (IsBehind stepName before before.Extends)
      (IsBroken stepName before) := by
  apply Runs.change
  intro given c c' hextends
  exact hextends.createIndex

theorem addVersion_runs (version : Int) :
    Runs (IsBehind stepName before before.Extends) (addVersion m version)
      (IsBehind stepName before before.Extends) (IsBroken stepName before) := by
  unfold addVersion
  split
  . exact (createIndex_runs _).bind (createIndex_runs _)
  . exact Runs.pure fun _ hs => hs

theorem setVersion_runs (hown : before.HasOwnRecords) (hlow : -2147483648 ≤ source)
    (hhigh : source ≤ 2147483647) :
    Runs (IsBehind stepName before before.Extends) (execute m (.change (.setVersion source)))
      (IsBehind stepName before (before.IsUnrecorded source)) (IsBroken stepName before) := by
  apply Runs.change
  intro given c c' hextends
  exact hextends.setVersion hown hlow hhigh

theorem recordSuccess_runs (hown : before.HasOwnRecords) (hascending : before.IsAscending) :
    Runs (IsBehind stepName before (before.IsUnrecorded (source + 1)))
      (execute m (.change (.recordStep source (source + 1) .success)))
      (IsBehind stepName before fun c =>
        before.IsMigrated source (source + 1) c ∧ c.IsAscending) (IsBroken stepName before) := by
  apply Runs.change
  intro given c c' hunrecorded hperform
  have hascending' := hunrecorded.isAscending hascending
  have hrecords :=
    Catalog.perform_recordStep (hunrecorded.hasOwnRecords hown) hascending' hperform
  exact ⟨hunrecorded.isMigrated hown hrecords, hrecords.isAscending hascending'⟩

/-- A step that succeeds has released its savepoint. -/
theorem migrateStep_runs (hown : before.HasOwnRecords) (hascending : before.IsAscending)
    (hlow : -2147483648 ≤ source) (hhigh : source < schemaVersion) :
    Runs (IsBehind stepName before before.Extends) (migrateStep m source)
      (IsIdle fun c => before.IsMigrated source (source + 1) c ∧ c.IsAscending)
      (IsBroken stepName before) := by
  have hversion : (schemaVersion : Int) = 2 := rfl
  exact (addVersion_runs _).bind <| (setVersion_runs hown (by omega) (by omega)).bind <|
    (recordSuccess_runs hown hascending).bind Runs.release

/-- A step that has failed is taken back, and nothing but an entry of the failure is left of it. -/
theorem takeBack_ends (hrolls : m.RollsBack) (hown : before.HasOwnRecords)
    (hascending : before.IsAscending) (failure : SetupError) :
    Ends (fun c => IsBroken stepName before c.toSession) (takeBack m source failure)
      fun _ c => IsRestored stepName before
        (fun c => c = before ∨ before.Records source (.failed failure.message) c) c.toSession := by
  refine Ends.bind (Tries.discard (Runs.rollBackTo hrolls)) fun _ => ?_
  refine Ends.bind (Tries.discard Runs.release_of_isRestored) fun _ => ?_
  apply Tries.discard
  apply Runs.change_of_isRestored
  intro given c hperform
  exact Catalog.perform_recordStep hown hascending hperform

/-! ### Migrations -/

variable {c c' c'' : Connection σ} {k target : Int} {cause : StoreError}

/-- Steps succeed one after the other, from one version to another. -/
inductive Climbs (m : Machine σ) : (source : Int) → Connection σ → (target : Int) →
    Connection σ → Prop
  | stay {source : Int} {c : Connection σ} : Climbs m source c source c
  | step {source target : Int} {c behind c' c'' : Connection σ}
    (hset : (execute m (.setSavepoint stepName)).run c = (.ok (), behind))
    (hstep : (migrateStep m source).run behind = (.ok (), c'))
    (hrest : Climbs m (source + 1) c' target c'') : Climbs m source c target c''

/-- A step fails: its savepoint cannot be set, or it is taken back. -/
inductive Fails (m : Machine σ) (source : Int) (c : Connection σ) : StoreError → Connection σ → Prop
  | unset {cause : StoreError} {c' : Connection σ}
    (hset : (execute m (.setSavepoint stepName)).run c = (.error cause, c')) :
    Fails m source c cause c'
  | takenBack {cause : StoreError} {behind broken c' : Connection σ}
    (hset : (execute m (.setSavepoint stepName)).run c = (.ok (), behind))
    (hstep : (migrateStep m source).run behind = (.error cause, broken))
    (htaken : (takeBack m source (.failed cause) broken).2 = c') : Fails m source c cause c'

theorem isBehind_of_setSavepoint (hidle : c.savepoints = [])
    (hset : (execute m (.setSavepoint stepName)).run c = (.ok (), c')) :
    IsBehind stepName c.catalog c.catalog.Extends c'.toSession := by
  obtain ⟨hsavepoint, hcatalog⟩ :=
    Tries.ok (Runs.setSavepoint c.catalog) ⟨hidle, rfl⟩ hset
  refine ⟨hsavepoint, ?_⟩
  rw [hcatalog]
  exact .refl _

theorem Fails.isRestored (h : Fails m source c cause c') (hrolls : m.RollsBack)
    (hidle : c.savepoints = []) (hown : c.catalog.HasOwnRecords)
    (hascending : c.catalog.IsAscending) (hlow : -2147483648 ≤ source)
    (hhigh : source < schemaVersion) :
    IsRestored stepName c.catalog (fun catalog => catalog = c.catalog ∨
      c.catalog.Records source (.failed (SetupError.failed cause).message) catalog)
      c'.toSession := by
  cases h with
  | unset hset =>
    obtain ⟨hidle', hsame⟩ :=
      Tries.error (Runs.setSavepoint c.catalog) ⟨hidle, rfl⟩ hset
    exact .inl ⟨hidle', .inl hsame⟩
  | takenBack hset hstep htaken =>
    have hbehind := isBehind_of_setSavepoint hidle hset
    have hbroken := Tries.error (migrateStep_runs hown hascending hlow hhigh) hbehind hstep
    rw [← htaken]
    exact takeBack_ends hrolls hown hascending _ _ hbroken

namespace Climbs

theorem le (h : Climbs m source c target c') : source ≤ target := by
  induction h with
  | stay => exact Int.le_refl _
  | step _ _ _ ih => omega

theorem isMigrated (h : Climbs m source c target c') (hidle : c.savepoints = [])
    (hown : c.catalog.HasOwnRecords) (hascending : c.catalog.IsAscending)
    (hversion : c.catalog.version = source) (hlow : -2147483648 ≤ source)
    (hhigh : target ≤ schemaVersion) :
    c'.savepoints = [] ∧ c.catalog.IsMigrated source target c'.catalog ∧
      c'.catalog.IsAscending := by
  -- That the rows ascend is carried along: only then a new entry of the history is the last one.
  induction h with
  | stay => exact ⟨hidle, .refl hversion, hascending⟩
  | step hset hstep hrest ih =>
    have hle := hrest.le
    have hbehind := isBehind_of_setSavepoint hidle hset
    obtain ⟨hidle', hfirst, hascending'⟩ :=
      Tries.ok (migrateStep_runs hown hascending hlow (by omega)) hbehind hstep
    obtain ⟨hidle'', hothers, hascending''⟩ :=
      ih hidle' (hown.congr hfirst.foreign) hascending' hfirst.version (by omega) hhigh
    exact ⟨hidle'', hfirst.trans hothers (by omega) hle, hascending''⟩

end Climbs

/-- How a migration goes from a version on: to the current version, or up to a step that fails. -/
inductive Migrates (m : Machine σ) (source : Int) (c : Connection σ) :
    Option SetupError → Connection σ → Prop
  | finished {c' : Connection σ} (hclimbs : Climbs m source c schemaVersion c') :
    Migrates m source c none c'
  | failed {k : Int} {before c' : Connection σ} {cause : StoreError}
    (hclimbs : Climbs m source c k before) (hk : k < schemaVersion)
    (hfails : Fails m k before cause c') : Migrates m source c (some (.failed cause)) c'

theorem Migrates.step {behind : Connection σ} {failure : Option SetupError}
    (hset : (execute m (.setSavepoint stepName)).run c = (.ok (), behind))
    (hstep : (migrateStep m source).run behind = (.ok (), c'))
    (h : Migrates m (source + 1) c' failure c'') : Migrates m source c failure c'' := by
  cases h with
  | finished hclimbs => exact .finished (.step hset hstep hclimbs)
  | failed hclimbs hk hfails => exact .failed (.step hset hstep hclimbs) hk hfails

theorem migrateSteps_migrates (steps : Nat) (c : Connection σ) :
    Ends (· = c) (migrateSteps m steps) (Migrates m (schemaVersion - steps) c) := by
  induction steps generalizing c with
  | zero =>
    apply Ends.pure
    rintro _ rfl
    exact .finished .stay
  | succ steps ih =>
    have hsource : (schemaVersion - (steps + 1 : Nat) : Int) < schemaVersion := by omega
    have hnext : (schemaVersion - (steps + 1 : Nat) : Int) + 1 = schemaVersion - steps := by omega
    unfold migrateSteps
    refine Ends.bind_eq ?_
    intro set behind hset
    cases set with
    | error cause =>
      apply Ends.pure
      rintro _ rfl
      exact .failed .stay hsource (.unset hset)
    | ok _ =>
      refine Ends.bind_eq ?_
      intro step c' hstep
      cases step with
      | ok _ =>
        intro s hs
        have hrest := ih c' s hs
        rw [← hnext] at hrest
        exact hrest.step hset hstep
      | error cause =>
        refine Ends.bind_eq ?_
        intro _ after htaken
        apply Ends.pure
        rintro _ rfl
        exact .failed .stay hsource (.takenBack hset hstep (congrArg Prod.snd htaken))

theorem migrate_migrates (h : c.catalog.version ≤ schemaVersion) :
    Migrates m c.catalog.version c (migrate m c).1 (migrate m c).2 := by
  have hsteps : (schemaVersion : Int) - (schemaVersion - c.catalog.version).toNat
      = c.catalog.version := by omega
  have hmigrate : migrate m c = migrateSteps m (schemaVersion - c.catalog.version).toNat c := by
    change (if schemaVersion < c.catalog.version then _ else _ : StateM (Connection σ) _) c = _
    rw [if_neg (by omega)]
  rw [hmigrate]
  conv =>
    arg 2
    rw [← hsteps]
  exact migrateSteps_migrates _ _ _ rfl

theorem migrate_of_current (h : c.catalog.version = schemaVersion) : migrate m c = (none, c) := by
  change (if schemaVersion < c.catalog.version then _ else _ : StateM (Connection σ) _) c = _
  rw [h]
  rfl

/-- A database of a newer version is not migrated, and nothing happens to it. -/
theorem migrate_of_newer (h : schemaVersion < c.catalog.version) :
    migrate m c = (some (.newerSchema c.catalog.version), c) := by
  change (if schemaVersion < c.catalog.version then _ else _ : StateM (Connection σ) _) c = _
  rw [if_pos h]
  rfl

/--
A migration that succeeds leaves a database of the current version, with one more entry for each
step, and nothing is left to do. One that fails leaves the database as it was before the step that
failed, save that there may be an entry of the failure. That holds whatever is refused on the way,
if only a rollback is not refused alone.
-/
theorem migrate_stepwise (hrolls : m.RollsBack) (c : Connection σ) (hidle : c.savepoints = [])
    (hown : c.catalog.HasOwnRecords) (hascending : c.catalog.IsAscending)
    (hversion : c.catalog.version ≤ schemaVersion) :
    ((migrate m c).1 = none →
      (migrate m c).2.savepoints = [] ∧
        c.catalog.IsMigrated c.catalog.version schemaVersion (migrate m c).2.catalog ∧
        ∀ {τ : Type} (m' : Machine τ) (machine : τ),
          migrate m' ⟨(migrate m c).2.toSession, machine⟩
            = (none, ⟨(migrate m c).2.toSession, machine⟩)) ∧
    ∀ failure, (migrate m c).1 = some failure →
      ∃ k before cause, c.catalog.version ≤ k ∧ k < schemaVersion ∧
        Climbs m c.catalog.version c k before ∧ before.savepoints = [] ∧
        c.catalog.IsMigrated c.catalog.version k before.catalog ∧
        Fails m k before cause (migrate m c).2 ∧ failure = .failed cause ∧
        ((migrate m c).2.catalog = before.catalog ∨
          before.catalog.Records k (.failed failure.message) (migrate m c).2.catalog) ∧
        ((migrate m c).2.committed = before.catalog ∨
          (migrate m c).2.committed = (migrate m c).2.catalog) := by
  have hlow := c.catalog.version_bounds.1
  have hmigrates := migrate_migrates (m := m) hversion
  generalize migrate m c = made at hmigrates ⊢
  obtain ⟨result, after⟩ := made
  constructor
  . intro hnone
    cases hmigrates with
    | failed => cases hnone
    | finished hclimbs =>
      obtain ⟨hidle', hmigrated, _⟩ :=
        hclimbs.isMigrated hidle hown hascending rfl hlow (Int.le_refl _)
      refine ⟨hidle', hmigrated, ?_⟩
      intro τ m' machine
      exact migrate_of_current hmigrated.version
  . intro failure hfailure
    cases hmigrates with
    | finished => cases hfailure
    | @failed k before _ cause hclimbs hk hfails =>
      cases hfailure
      have hle := hclimbs.le
      obtain ⟨hidle', hmigrated, hascending'⟩ :=
        hclimbs.isMigrated hidle hown hascending rfl hlow (Int.le_of_lt hk)
      have hrestored := hfails.isRestored hrolls hidle' (hown.congr hmigrated.foreign)
        hascending' (by omega) hk
      exact ⟨k, before, cause, hle, hk, hclimbs, hidle', hmigrated, hfails, rfl,
        hrestored.catalog, hrestored.committed⟩

/-- A machine whose disk is full at the release that its state counts down to. -/
def Machine.fullAtRelease : Machine Nat where
  answer
    | .release _ => fun n =>
      (if n = 1 then .error (.ofCommand .full) else .ok ⟨Database.clock, .ok⟩, n - 1)
    | _ => return .ok ⟨Database.clock, .ok⟩

/-- A database of version -1, without any of the indexes. -/
def Catalog.ofVersionMinusOne : Catalog :=
  let versions : Table := ⟨[⟨1, [.text versionKey, .text "-1"]⟩], 0⟩
  .ofDatabase ((((Database.empty.setTable .indexMeta (some versions)).setTable .symbols
    (some .empty)).setTable .units (some .empty)).setTable .migrationHistory (some .empty))

/--
The last of the three steps fails when its savepoint is to be released. It has added two indexes by
then, and an entry of its success, which are taken back.
-/
theorem migrate_ofVersionMinusOne :
    let c : Connection Nat := .new .ofVersionMinusOne 3
    let c' : Connection Unit := .new .ofVersionMinusOne ()
    ((migrate .fullAtRelease c).1 = some (.failed .full) ∧
      (migrate .fullAtRelease c).2.catalog.indexes = [] ∧
      (migrate .fullAtRelease c).2.catalog.historyRows
        = [Database.historyRow 1 (-1) Database.clock .success,
            Database.historyRow 2 0 Database.clock .success,
            Database.historyRow 3 1 Database.clock
              (.failed "SQLite error: database or disk is full")] ∧
      ∃ k before, c.catalog.IsMigrated (-1) k before.catalog ∧
        Fails .fullAtRelease k before .full (migrate .fullAtRelease c).2) ∧
    (migrate (.calm Database.clock) c').1 = none ∧
      c'.catalog.IsMigrated (-1) schemaVersion (migrate (.calm Database.clock) c').2.catalog := by
  have hascending : Catalog.ofVersionMinusOne.IsAscending :=
    (((Database.IsAscending.empty.withTable (Table.isAscending_singleton _ _)).withTable
      Table.isAscending_empty).withTable Table.isAscending_empty).withTable
        Table.isAscending_empty
  have hversion {τ : Type} (machine : τ) :
      (Connection.new Catalog.ofVersionMinusOne machine).catalog.version = -1 := by
    change Catalog.ofVersionMinusOne.version = -1
    decide +kernel
  have holder {τ : Type} (machine : τ) :
      (Connection.new Catalog.ofVersionMinusOne machine).catalog.version ≤ schemaVersion := by
    rw [hversion]
    decide
  dsimp only
  constructor
  . have hrolls : Machine.fullAtRelease.RollsBack := by
      intro name machine cause h
      cases h
    have hfailure :
        (migrate .fullAtRelease (.new .ofVersionMinusOne 3)).1 = some (.failed .full) := by
      decide +kernel
    refine ⟨hfailure, by decide +kernel, by decide +kernel, ?_⟩
    obtain ⟨k, before, cause, _, _, _, _, hmigrated, hfails, hcause, _⟩ :=
      (migrate_stepwise hrolls _ rfl ⟨rfl, rfl⟩ hascending (holder 3)).2 _ hfailure
    cases hcause
    rw [hversion] at hmigrated
    exact ⟨k, before, hmigrated, hfails⟩
  . have hrolls := Machine.rollsBack_calm Database.clock
    have hfailure : (migrate (.calm Database.clock) (.new .ofVersionMinusOne ())).1 = none := by
      decide +kernel
    obtain ⟨_, hmigrated, _⟩ :=
      (migrate_stepwise hrolls _ rfl ⟨rfl, rfl⟩ hascending (holder ())).1 hfailure
    rw [hversion] at hmigrated
    exact ⟨hfailure, hmigrated⟩

/-! ### Rows stay in ascending order -/

theorem Fails.isAscending {k : Int} (h : Fails m k c cause c') (hrolls : m.RollsBack)
    (hidle : c.savepoints = []) (hown : c.catalog.HasOwnRecords)
    (hascending : c.catalog.IsAscending) (hlow : -2147483648 ≤ k) (hhigh : k < schemaVersion) :
    c'.committed.IsAscending := by
  have hrestored := h.isRestored hrolls hidle hown hascending hlow hhigh
  have hcatalog : c'.catalog.IsAscending := by
    rcases hrestored.catalog with hsame | hrecords
    . rw [hsame]
      exact hascending
    . exact hrecords.isAscending hascending
  rcases hrestored.committed with hcommitted | hcommitted
  . rw [hcommitted]
    exact hascending
  . rw [hcommitted]
    exact hcatalog

theorem isAscending_migrate (hrolls : m.RollsBack) (hidle : c.savepoints = [])
    (hown : c.catalog.HasOwnRecords) (hascending : c.catalog.IsAscending) :
    (migrate m c).2.committed.IsAscending := by
  by_cases hnewer : schemaVersion < c.catalog.version
  . rw [migrate_of_newer hnewer, committed_of_nil hidle]
    exact hascending
  . have hlow := c.catalog.version_bounds.1
    have hmigrates := migrate_migrates (m := m) (Int.not_lt.mp hnewer)
    generalize migrate m c = made at hmigrates ⊢
    obtain ⟨failure, c'⟩ := made
    cases hmigrates with
    | finished hclimbs =>
      obtain ⟨hidle', _, hascending'⟩ :=
        hclimbs.isMigrated hidle hown hascending rfl hlow (Int.le_refl _)
      rw [committed_of_nil hidle']
      exact hascending'
    | failed hclimbs hk hfails =>
      have hle := hclimbs.le
      obtain ⟨hidle', hmigrated, hascending'⟩ :=
        hclimbs.isMigrated hidle hown hascending rfl hlow (Int.le_of_lt hk)
      exact hfails.isAscending hrolls hidle' (hown.congr hmigrated.foreign) hascending'
        (by omega) hk

end FreshIndex.Store
