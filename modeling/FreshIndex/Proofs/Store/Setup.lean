import Mathlib.Data.List.Nodup
import FreshIndex.Proofs.Store.Migration

/-!
This module contains what the setting up of a database does to one that a newer version has made. It
is refused, but only after the statements of the schema were run on it, up to one that fails.
-/

namespace FreshIndex.Store

namespace Catalog

variable {c c' : Catalog} {s : Statement} {done : List Statement}

/-! ### What statements add -/

/-- The indexes of statements that are not there. -/
def missing (c : Catalog) (ss : List Statement) : List IndexName :=
  ss.filterMap fun
    | .createTable _ => none
    | .createIndex index => if c.hasIndex index then none else some index

/--
What statements make of a database: the tables and indexes that were missing are there, the tables
without rows, and all else is as it was.
-/
structure Adds (c : Catalog) (done : List Statement) (c' : Catalog) : Prop where
  tables : ∀ name, c'.table? name =
    if .createTable name ∈ done then some ((c.table? name).getD .empty) else c.table? name
  indexes : c'.indexes = c.indexes ++ c.missing done
  shapes : ∀ name, c'.shape name = c.shape name
  foreign : ∀ name, c.table? name ≠ none → c'.foreign.lookup name = c.foreign.lookup name
  own : ∀ name, c.isForeign name = false → c'.isForeign name = false
  others : c'.others = c.others
  isLocked : c'.isLocked = c.isLocked

/-- The tables with their shapes and rows are the same, and so are all other objects. -/
structure IsAlike (c c' : Catalog) : Prop where
  tables : ∀ name, c'.table? name = c.table? name
  indexes : c'.indexes = c.indexes
  shapes : ∀ name, c'.shape name = c.shape name
  foreign : ∀ name, c.table? name ≠ none → c'.foreign.lookup name = c.foreign.lookup name
  others : c'.others = c.others

theorem missing_append (c : Catalog) (ss ss' : List Statement) :
    c.missing (ss ++ ss') = c.missing ss ++ c.missing ss' :=
  List.filterMap_append

theorem missing_of_has (h : c.has s = true) : c.missing [s] = [] := by
  cases s with
  | createTable name => rfl
  | createIndex index =>
    change c.hasIndex index = true at h
    simp [missing, h]

theorem mem_missing {index : IndexName} {ss : List Statement} (h : index ∈ c.missing ss) :
    .createIndex index ∈ ss := by
  obtain ⟨s, hs, hindex⟩ := List.mem_filterMap.mp h
  cases s with
  | createTable name => cases hindex
  | createIndex other =>
    dsimp only at hindex
    split at hindex
    . cases hindex
    . cases hindex
      exact hs

namespace Adds

theorem refl (c : Catalog) : c.Adds [] c where
  tables _ := rfl
  indexes := (List.append_nil _).symm
  shapes _ := rfl
  foreign _ _ := rfl
  own _ := id
  others := rfl
  isLocked := rfl

theorem withLog (c : Catalog) :
    c.Adds [] (c.withDatabase { c.toDatabase with hasWriteAheadLog := true }) where
  tables name := Database.table?_withLog _ _ _
  indexes := (List.append_nil _).symm
  shapes name := by
    unfold shape
    rw [toDatabase_withDatabase, Database.table?_withLog]
    rfl
  foreign _ _ := rfl
  own _ := id
  others := rfl
  isLocked := rfl

/-- What another statement makes was not made by those that are done. -/
theorem has_eq (h : c.Adds done c') (hs : s ∉ done) : c'.has s = c.has s := by
  cases s with
  | createTable name =>
    unfold has
    dsimp only
    rw [h.tables, if_neg hs]
  | createIndex index =>
    have hindex : index ∉ c.missing done := fun hmissing => hs (mem_missing hmissing)
    unfold has hasIndex
    dsimp only
    rw [h.indexes, h.others]
    simp [hindex]

theorem admits_eq (h : c.Adds done c') (hs : s ∉ done) : c'.admits s = c.admits s := by
  have hhas := h.has_eq hs
  unfold has at hhas
  cases s with
  | createTable name =>
    dsimp only at hhas
    unfold admits hasIndexNamed
    dsimp only
    rw [hhas, h.others, h.isLocked]
  | createIndex index =>
    dsimp only at hhas
    unfold admits hasRelationNamed
    dsimp only
    rw [hhas, h.others, h.isLocked, h.shapes]

theorem addTable {name : TableName} (h : c.Adds done c') (hmissing : c.table? name = none) :
    c.Adds (done ++ [.createTable name]) (c'.addTable name) where
  tables other := by
    rw [table?_addTable, h.tables]
    by_cases hother : other = name
    . subst hother
      simp [hmissing]
    . simp [hother]
  indexes := by
    rw [missing_append, toDatabase_addTable, Database.indexes_setTable, h.indexes]
    exact congrArg _ (List.append_nil _).symm
  shapes other := by
    have hshape := h.shapes other
    unfold shape at hshape ⊢
    rw [table?_addTable]
    by_cases hother : other = name
    . subst hother
      rw [if_pos (by simp), lookup_foreign_addTable_self, if_neg (by simp [hmissing]),
        Option.getD_none]
    . rw [if_neg hother, lookup_foreign_addTable _ hother, hshape]
  foreign other hother := by
    have hne : other ≠ name := by
      rintro rfl
      exact hother hmissing
    rw [lookup_foreign_addTable _ hne, h.foreign other hother]
  own other hother := by
    have hown := h.own other hother
    unfold isForeign at hown ⊢
    by_cases hne : other = name
    . rw [hne, lookup_foreign_addTable_self]
      rfl
    . rw [lookup_foreign_addTable _ hne, hown]
  others := h.others
  isLocked := (Database.isLocked_setTable _ _ _).trans h.isLocked

theorem addIndex {index : IndexName} (h : c.Adds done c') (hmissing : c.hasIndex index = false) :
    c.Adds (done ++ [.createIndex index]) (c'.addIndex index) where
  tables other := by
    rw [toDatabase_addIndex, Database.table?_withIndexes, h.tables]
    simp
  indexes := by
    rw [missing_append, toDatabase_addIndex]
    dsimp only
    rw [h.indexes, List.append_assoc]
    simp [missing, hmissing]
  shapes other := by
    rw [← h.shapes other]
    unfold shape
    rw [toDatabase_addIndex, Database.table?_withIndexes]
    rfl
  foreign := h.foreign
  own := h.own
  others := h.others
  isLocked := h.isLocked

theorem concat (h : c.Adds done c') (hs : s ∉ done) : c.Adds (done ++ [s]) (c'.ensure s) := by
  unfold ensure
  rw [h.has_eq hs]
  by_cases hhas : c.has s = true
  . rw [if_pos hhas]
    refine ⟨?_, ?_, h.shapes, h.foreign, h.own, h.others, h.isLocked⟩
    . intro name
      rw [h.tables]
      by_cases hname : .createTable name = s
      . subst hname
        obtain ⟨t, ht⟩ := Option.isSome_iff_exists.mp hhas
        simp [ht]
      . simp [hname]
    . rw [missing_append, missing_of_has hhas, List.append_nil, h.indexes]
  . rw [if_neg hhas]
    rw [Bool.not_eq_true] at hhas
    cases s with
    | createTable name => exact h.addTable (by simpa [has] using hhas)
    | createIndex index => exact h.addIndex hhas

theorem isAlike_iff (h : c.Adds done c') : c.IsAlike c' ↔ ∀ s ∈ done, c.has s = true := by
  constructor
  . rintro ⟨htables, hindexes, _, _, _⟩ s hs
    cases s with
    | createTable name =>
      have htable := h.tables name
      rw [htables, if_pos hs] at htable
      change (c.table? name).isSome = true
      rw [htable]
      rfl
    | createIndex index =>
      have hnone : c.missing done = [] := by
        rw [h.indexes] at hindexes
        exact List.append_right_eq_self.mp hindexes
      unfold missing at hnone
      rw [List.filterMap_eq_nil_iff] at hnone
      simpa [has] using hnone _ hs
  . intro hall
    refine ⟨?_, ?_, h.shapes, h.foreign, h.others⟩
    . intro name
      rw [h.tables]
      split
      . next hname =>
        obtain ⟨t, ht⟩ := Option.isSome_iff_exists.mp (hall _ hname)
        rw [ht]
        rfl
      . rfl
    . have hnone : c.missing done = [] := by
        unfold missing
        rw [List.filterMap_eq_nil_iff]
        intro s hs
        have hhas := hall s hs
        cases s with
        | createTable name => rfl
        | createIndex index =>
          unfold has at hhas
          dsimp only at hhas ⊢
          rw [if_pos hhas]
      rw [h.indexes, hnone, List.append_nil]

theorem isAscending (h : c.Adds done c') (hascending : c.IsAscending) : c'.IsAscending := by
  intro name t ht
  rw [h.tables] at ht
  cases htable : c.table? name with
  | none =>
    rw [htable] at ht
    split at ht
    . cases ht
      exact Table.isAscending_empty
    . cases ht
  | some t' =>
    rw [htable, Option.getD_some, ite_self] at ht
    cases ht
    exact hascending name _ htable

theorem hasOwnRecords (h : c.Adds done c') (hown : c.HasOwnRecords) : c'.HasOwnRecords where
  version := h.own _ hown.version
  history := h.own _ hown.history

/-- The version of a newer schema is read from a table that is there, to which nothing is added. -/
theorem version_eq (h : c.Adds done c') (hversion : schemaVersion < c.version) :
    c'.version = c.version := by
  have hthere : c.indexMeta ≠ none := by
    intro hmissing
    unfold version at hversion
    rw [hmissing] at hversion
    cases hversion
  obtain ⟨t, ht⟩ := Option.ne_none_iff_exists'.mp hthere
  have hmeta := h.tables .indexMeta
  change c'.indexMeta = if _ then some (c.indexMeta.getD .empty) else c.indexMeta at hmeta
  rw [ht, Option.getD_some, ite_self] at hmeta
  exact version_congr (hmeta.trans ht.symm) (h.shapes _)

end Adds

end Catalog

/-! ### The statements of the schema -/

/-- The indexes that the statements of the schema make. -/
def schemaIndexes : List IndexName :=
  [.symbolsName, .occurrencesUsr, .occurrencesPath, .relationsOccurrence, .relationsUsr,
    .unitsMainFile, .unitFilesPath, .unitTestsMainFile]

theorem statements_eq :
    statements = TableName.all.map .createTable ++ schemaIndexes.map .createIndex :=
  rfl

theorem nodup_statements : statements.Nodup := by
  decide

theorem TableName.mem_all (name : TableName) : name ∈ all := by
  cases name <;> decide

/-- An index is made after its table. -/
theorem createTable_mem_of_statements {done rest : List Statement} {index : IndexName}
    (h : statements = done ++ .createIndex index :: rest) : .createTable index.table ∈ done := by
  have htable : Statement.createTable index.table ∈ TableName.all.map .createTable :=
    List.mem_map_of_mem (TableName.mem_all _)
  rw [statements_eq, List.append_eq_append_iff] at h
  rcases h with ⟨between, rfl, _⟩ | ⟨between, htables, hrest⟩
  . exact List.mem_append_left _ htable
  . cases between with
    | nil => rwa [htables, List.append_nil] at htable
    | cons first between =>
      rw [List.cons_append, List.cons.injEq] at hrest
      have hfirst : first ∈ TableName.all.map Statement.createTable := by
        rw [htables]
        exact List.mem_append_right _ List.mem_cons_self
      rw [← hrest.1] at hfirst
      obtain ⟨_, _, hname⟩ := List.mem_map.mp hfirst
      cases hname

/-! ### Refusals -/

variable {σ : Type} {m : Machine σ} {c : Catalog} {change : Change} {cause : StoreError}

/-- Why a change is not made: the machine refuses it, or it fails on the database. -/
inductive Machine.Refuses (m : Machine σ) (c : Catalog) (change : Change) : StoreError → Prop
  | alone {cause : StoreError} {machine : σ}
    (h : (m.answer (.change change) machine).1 = .error (.ofCommand cause)) :
    m.Refuses c change cause
  | withTransaction {cause : StoreError} {machine : σ}
    (h : (m.answer (.change change) machine).1 = .error (.ofTransaction cause)) :
    m.Refuses c change cause
  | failed {cause : StoreError} {given : Circumstances}
    (h : c.perform given change = .error cause) : m.Refuses c change cause

/-- The machine refuses nothing. -/
def Machine.IsCalm (m : Machine σ) : Prop :=
  ∀ command machine, ∃ given, (m.answer command machine).1 = .ok given

theorem Machine.IsCalm.not_refused {command : Command} {machine : σ} {refusal : Refusal}
    (h : m.IsCalm) : (m.answer command machine).1 ≠ .error refusal := by
  obtain ⟨given, hgiven⟩ := h command machine
  rw [hgiven]
  exact nofun

theorem Machine.IsCalm.failed (h : m.IsCalm) (hrefuses : m.Refuses c change cause) :
    ∃ given, c.perform given change = .error cause := by
  cases hrefuses with
  | alone hanswer => exact absurd hanswer h.not_refused
  | withTransaction hanswer => exact absurd hanswer h.not_refused
  | failed hperform => exact ⟨_, hperform⟩

open Session

/-- Outside of a transaction a change is made, or all is as it was. -/
theorem change_tries (change : Change) :
    Tries (fun conn : Connection σ => IsIdle (· = c) conn.toSession) (execute m (.change change))
      (fun _ conn => IsIdle (fun c' => ∃ given, c.perform given change = .ok c') conn.toSession)
      (fun cause conn => IsIdle (· = c) conn.toSession ∧ m.Refuses c change cause) := by
  intro conn hconn
  rw [run_execute]
  generalize hmachine : m.answer (.change change) conn.machine = answer
  rcases answer with ⟨(cause | cause) | given, machine⟩
  . exact ⟨hconn, .alone (congrArg Prod.fst hmachine)⟩
  . refine ⟨?_, .withTransaction (congrArg Prod.fst hmachine)⟩
    dsimp only
    rw [hconn.rolledBack]
    exact hconn
  . obtain ⟨hidle, hcatalog⟩ := hconn
    dsimp only
    unfold Session.perform
    dsimp only
    rw [hcatalog]
    cases hperform : c.perform given change with
    | error cause => exact ⟨⟨hidle, hcatalog⟩, .failed hperform⟩
    | ok c' => exact ⟨hidle, given, hperform⟩

/-- Whether the log can be turned on, or is. -/
def Catalog.admitsLog (c : Catalog) : Bool :=
  c.hasWriteAheadLog || !c.isLocked

/-- The log was turned on and these statements were carried out, and nothing else was done. -/
structure IsReplayed (c : Catalog) (done : List Statement) (s : Session) : Prop where
  isIdle : s.savepoints = []
  admitsLog : c.admitsLog = true
  adds : c.Adds done s.catalog
  admits : ∀ d ∈ done, c.admits d = true

theorem IsReplayed.concat {done : List Statement} {s : Statement} {session session' : Session}
    {given : Circumstances} (h : IsReplayed c done session) (hs : s ∉ done)
    (hperform : session.catalog.perform given (.run s) = .ok session'.catalog)
    (hidle : session'.savepoints = []) : IsReplayed c (done ++ [s]) session' := by
  obtain ⟨hadmitted, hcatalog⟩ := Catalog.run_eq_ok hperform
  rw [h.adds.admits_eq hs] at hadmitted
  refine ⟨hidle, h.admitsLog, ?_, ?_⟩
  . rw [hcatalog]
    exact h.adds.concat hs
  . intro d hd
    rcases List.mem_append.mp hd with hd | hd
    . exact h.admits d hd
    . rw [List.mem_singleton.mp hd]
      exact hadmitted

theorem useLog_eq (c : Catalog) (given : Circumstances) :
    c.perform given .useLog
      = if c.admitsLog then .ok (c.withDatabase { c.toDatabase with hasWriteAheadLog := true })
        else .error .locked := by
  unfold Catalog.perform Database.useWriteAheadLog Catalog.admitsLog Database.lock
  dsimp only
  by_cases hlog : c.hasWriteAheadLog = true
  . have hsame : { c.toDatabase with hasWriteAheadLog := true } = c.toDatabase := by
      rw [← hlog]
    rw [hsame]
    simp [hlog]
    rfl
  . simp [hlog]
    cases c.isLocked <;> rfl

/-- A statement is carried out after others, or it is refused and they stay done. -/
theorem run_tries {done : List Statement} {s : Statement} (hs : s ∉ done) :
    Tries (fun conn : Connection σ => IsReplayed c done conn.toSession)
      (execute m (.change (.run s))) (fun _ conn => IsReplayed c (done ++ [s]) conn.toSession)
      (fun cause conn => IsReplayed c done conn.toSession ∧
        m.Refuses conn.catalog (.run s) cause) := by
  apply Tries.each
  intro conn hconn
  apply (change_tries (.run s)).weaken
  . rintro _ rfl
    exact ⟨hconn.1, rfl⟩
  . rintro _ conn' ⟨hidle, given, hperform⟩
    exact hconn.concat hs hperform hidle
  . rintro cause conn' ⟨⟨hidle, hsame⟩, hrefuses⟩
    rw [← hsame] at hrefuses
    refine ⟨⟨hidle, hconn.admitsLog, ?_, hconn.admits⟩, hrefuses⟩
    rw [hsame]
    exact hconn.adds

theorem replay_cons (s : Statement) (rest : List Statement) :
    replay m (s :: rest) = (execute m (.change (.run s)) >>= fun _ => replay m rest) :=
  rfl

/-- The statements are carried out one after the other, up to one that is refused. -/
theorem replay_tries (done ss : List Statement) (hnodup : (done ++ ss).Nodup) :
    Tries (fun conn : Connection σ => IsReplayed c done conn.toSession) (replay m ss)
      (fun _ conn => IsReplayed c (done ++ ss) conn.toSession)
      (fun cause conn => ∃ done' s rest, done ++ ss = done' ++ s :: rest ∧
        IsReplayed c done' conn.toSession ∧ m.Refuses conn.catalog (.run s) cause) := by
  induction ss generalizing done with
  | nil =>
    rw [List.append_nil]
    exact Tries.pure fun _ hconn => hconn
  | cons s rest ih =>
    have hs : s ∉ done := fun hdone =>
      List.disjoint_of_nodup_append hnodup hdone List.mem_cons_self
    have hconcat : done ++ s :: rest = (done ++ [s]) ++ rest := by simp
    rw [replay_cons]
    refine Tries.bind ((run_tries hs).weaken (fun _ => id) (fun _ _ => id) ?_) fun _ => ?_
    . rintro cause conn ⟨hreplayed, hrefuses⟩
      exact ⟨done, s, rest, rfl, hreplayed, hrefuses⟩
    . rw [hconcat] at hnodup ⊢
      exact ih _ hnodup

/-- The statements that are carried out if the machine refuses nothing. -/
def Catalog.replayed (c : Catalog) : List Statement :=
  if c.admitsLog then statements.takeWhile c.admits else []

/--
How far the statements of the schema are carried out: there is one that is refused, or the log
cannot be turned on before them.
-/
inductive Stops (m : Machine σ) (c : Catalog) (cause : StoreError) :
    (done : List Statement) → Session → Prop
  | log {s : Session} (hsame : s.IsIdle (· = c)) (hrefuses : m.Refuses c .useLog cause) :
    Stops m c cause [] s
  | statement {done rest : List Statement} {s : Statement} {session : Session}
    (hsplit : statements = done ++ s :: rest) (hreplayed : IsReplayed c done session)
    (hrefuses : m.Refuses session.catalog (.run s) cause) : Stops m c cause done session

theorem useLog_tries :
    Tries (fun conn : Connection σ => IsIdle (· = c) conn.toSession) (execute m (.change .useLog))
      (fun _ conn => IsReplayed c [] conn.toSession)
      (fun cause conn => ∃ done, Stops m c cause done conn.toSession) := by
  apply (change_tries .useLog).weaken
  . exact fun _ => id
  . rintro _ conn ⟨hidle, given, hperform⟩
    rw [useLog_eq] at hperform
    split at hperform
    . next hlog =>
      refine ⟨hidle, hlog, ?_, by simp⟩
      rw [← Except.ok.inj hperform]
      exact .withLog c
    . cases hperform
  . rintro cause conn ⟨hsame, hrefuses⟩
    exact ⟨[], .log hsame hrefuses⟩

theorem prepare_tries :
    Tries (fun conn : Connection σ => IsIdle (· = c) conn.toSession) (prepare m)
      (fun _ conn => IsReplayed c statements conn.toSession)
      (fun cause conn => ∃ done, Stops m c cause done conn.toSession) := by
  unfold prepare
  refine Tries.bind useLog_tries fun _ => ?_
  apply (replay_tries [] statements nodup_statements).weaken
  . exact fun _ => id
  . exact fun _ _ => id
  . rintro cause conn ⟨done, s, rest, hsplit, hreplayed, hrefuses⟩
    exact ⟨done, .statement hsplit hreplayed hrefuses⟩

theorem IsReplayed.replayed_eq {s : Session} (h : IsReplayed c statements s) :
    c.replayed = statements := by
  unfold Catalog.replayed
  rw [if_pos h.admitsLog, ← List.append_nil statements,
    List.takeWhile_append_of_pos h.admits, List.takeWhile_nil]

namespace Stops

variable {done : List Statement} {s : Session}

theorem isIdle (h : Stops m c cause done s) : s.savepoints = [] := by
  cases h with
  | log hsame => exact hsame.1
  | statement _ hreplayed => exact hreplayed.isIdle

theorem adds (h : Stops m c cause done s) : c.Adds done s.catalog := by
  cases h with
  | log hsame =>
    rw [hsame.2]
    exact .refl c
  | statement _ hreplayed => exact hreplayed.adds

theorem isPrefix (h : Stops m c cause done s) : done <+: statements := by
  cases h with
  | log => exact List.nil_prefix
  | @statement _ rest s _ hsplit =>
    rw [hsplit]
    exact List.prefix_append _ _

/-- Where the machine refuses nothing, the first statement that fails is not admitted. -/
theorem replayed_eq (hcalm : m.IsCalm) (h : Stops m c cause done s) : c.replayed = done := by
  unfold Catalog.replayed
  cases h with
  | log hsame hrefuses =>
    obtain ⟨given, hfailed⟩ := hcalm.failed hrefuses
    rw [useLog_eq] at hfailed
    split at hfailed
    . cases hfailed
    . next hlog => rw [if_neg hlog]
  | @statement _ rest s _ hsplit hreplayed hrefuses =>
    obtain ⟨given, hfailed⟩ := hcalm.failed hrefuses
    have hs : s ∉ done := by
      have hnodup := nodup_statements
      rw [hsplit] at hnodup
      exact fun hdone => List.disjoint_of_nodup_append hnodup hdone List.mem_cons_self
    have hrejected : ¬ c.admits s = true := by
      intro hadmits
      rw [← hreplayed.adds.admits_eq hs] at hadmits
      have hrun := Catalog.run_of_admits ?_ hadmits
      . change Catalog.run _ _ = _ at hfailed
        rw [hrun] at hfailed
        cases hfailed
      . rintro index rfl
        have htable := hreplayed.adds.tables index.table
        rw [if_pos (createTable_mem_of_statements hsplit)] at htable
        rw [htable]
        exact Option.some_ne_none _
    rw [if_pos hreplayed.admitsLog, hsplit, List.takeWhile_append_of_pos hreplayed.admits,
      List.takeWhile_cons_of_neg hrejected, List.append_nil]

end Stops

/-! ### Databases of a newer version -/

variable {conn conn' : Connection σ}

theorem setUp_of_error (h : (prepare m).run conn = (.error cause, conn')) :
    setUp m conn = (some (.failed cause), conn') := by
  unfold setUp
  exact run_bind_eq h

theorem setUp_of_ok (h : (prepare m).run conn = (.ok (), conn')) :
    setUp m conn = migrate m conn' := by
  unfold setUp
  exact run_bind_eq h

/--
A database of a newer version is refused. The statements of the schema are run on it before, up to
one that is refused: what they make and is not there is added, and all else is as it was. So nothing
has changed if and only if all is there that these statements make.
-/
theorem setUp_of_newer (m : Machine σ) (conn : Connection σ) (hidle : conn.savepoints = [])
    (h : schemaVersion < conn.catalog.version) :
    (∃ failure, (setUp m conn).1 = some failure) ∧
    (∃ done, done <+: statements ∧ conn.catalog.Adds done (setUp m conn).2.catalog ∧
      (setUp m conn).2.savepoints = [] ∧
      (conn.catalog.IsAlike (setUp m conn).2.catalog ↔
        ∀ s ∈ done, conn.catalog.has s = true) ∧
      (m.IsCalm → done = conn.catalog.replayed) ∧
      ((done = statements ∧ (setUp m conn).1 = some (.newerSchema conn.catalog.version)) ∨
        ∃ cause, (setUp m conn).1 = some (.failed cause) ∧
          Stops m conn.catalog cause done (setUp m conn).2.toSession)) ∧
    migrate m conn = (some (.newerSchema conn.catalog.version), conn) := by
  have hprepare := prepare_tries (m := m) (c := conn.catalog)
  cases hrun : (prepare m).run conn with
  | mk result conn' =>
    cases result with
    | error cause =>
      obtain ⟨done, hstops⟩ := hprepare.error ⟨hidle, rfl⟩ hrun
      rw [setUp_of_error hrun]
      refine ⟨⟨_, rfl⟩, ⟨done, hstops.isPrefix, hstops.adds, hstops.isIdle,
        hstops.adds.isAlike_iff, ?_, .inr ⟨cause, rfl, hstops⟩⟩, migrate_of_newer h⟩
      intro hcalm
      exact (hstops.replayed_eq hcalm).symm
    | ok _ =>
      have hreplayed := hprepare.ok ⟨hidle, rfl⟩ hrun
      have hversion := hreplayed.adds.version_eq h
      rw [setUp_of_ok hrun, migrate_of_newer (by rw [hversion]; exact h), hversion]
      refine ⟨⟨_, rfl⟩, ⟨statements, List.prefix_rfl, hreplayed.adds, hreplayed.isIdle,
        hreplayed.adds.isAlike_iff, ?_, .inl ⟨rfl, rfl⟩⟩, migrate_of_newer h⟩
      intro _
      exact hreplayed.replayed_eq.symm

/-- A database of the third version, which has only the table with the version and one of units. -/
def Catalog.ofVersionThree : Catalog :=
  .ofDatabase ((Database.empty.setTable .indexMeta
    (some ⟨[⟨1, [.text versionKey, .text "3"]⟩], 0⟩)).setTable .units
      (some ⟨[⟨1, [.text "u", .text "/m", .integer 5]⟩], 0⟩))

/-- A database of the third version in which a column of the symbols has another name. -/
def Catalog.ofLabels : Catalog :=
  let made := TableName.all.foldl (fun db name => db.setTable name (some .empty)) Database.empty
  { ofDatabase (made.setTable .indexMeta
      (some ⟨[⟨1, [.text versionKey, .text "3"]⟩], 0⟩)) with
    foreign := [(.symbols, ⟨.table, ["usr", "label", "kind"]⟩)] }

/-- The first index cannot be made without its column, and then nothing was added. -/
theorem setUp_ofVersionThree :
    let calm := Machine.calm Database.clock
    let c : Connection Unit := .new .ofVersionThree ()
    let c' : Connection Unit := .new .ofLabels ()
    (schemaVersion < c.catalog.version ∧ c.catalog.Adds statements (setUp calm c).2.catalog ∧
      (setUp calm c).1 = some (.newerSchema 3)) ∧
    schemaVersion < c'.catalog.version ∧ c'.catalog.IsAlike (setUp calm c').2.catalog ∧
      c'.catalog.has (.createIndex .symbolsName) = false ∧
      (setUp calm c').1 = some (.failed (.noSuchColumn "name")) := by
  have hcalm : (Machine.calm Database.clock).IsCalm := fun _ _ => ⟨_, rfl⟩
  have hnewer : schemaVersion < (Connection.new Catalog.ofVersionThree ()).catalog.version := by
    decide +kernel
  have hnewer' : schemaVersion < (Connection.new Catalog.ofLabels ()).catalog.version := by
    decide +kernel
  have hreplayed : Catalog.ofVersionThree.replayed = statements := by
    decide +kernel
  have hreplayed' : Catalog.ofLabels.replayed = TableName.all.map .createTable := by
    decide +kernel
  obtain ⟨_, ⟨done, _, hadds, _, _, hdone, _⟩, _⟩ := setUp_of_newer _ _ rfl hnewer
  obtain ⟨_, ⟨done', _, _, _, halike, hdone', _⟩, _⟩ := setUp_of_newer _ _ rfl hnewer'
  rw [hdone hcalm] at hadds
  rw [hdone' hcalm] at halike
  refine ⟨⟨hnewer, ?_, by decide +kernel⟩, hnewer', ?_, by decide +kernel, by decide +kernel⟩
  . rwa [← hreplayed]
  . apply halike.mpr
    change ∀ s ∈ Catalog.ofLabels.replayed, _
    rw [hreplayed']
    decide +kernel

/-- The database is refused, and yet it has a table of symbols that was not there. -/
theorem setUp_adds_ofVersionThree :
    let c : Connection Unit := .new .ofVersionThree ()
    let made := setUp (.calm Database.clock) c
    c.catalog.version = 3 ∧ made.1 = some (.newerSchema 3) ∧
      c.catalog.table? .symbols = none ∧ made.2.catalog.table? .symbols = some .empty ∧
      ¬ c.catalog.IsAlike made.2.catalog := by
  have hbefore : Catalog.ofVersionThree.table? .symbols = none := by
    decide +kernel
  have hafter : (setUp (.calm Database.clock) (.new .ofVersionThree ())).2.catalog.table? .symbols
      = some .empty := by
    decide +kernel
  refine ⟨by decide +kernel, by decide +kernel, hbefore, hafter, ?_⟩
  intro halike
  have hsame := halike.tables .symbols
  rw [hafter] at hsame
  cases hsame.trans hbefore

/-! ### Databases that arise -/

theorem isAscending_setUp (hrolls : m.RollsBack) (hidle : conn.savepoints = [])
    (hown : conn.catalog.HasOwnRecords) (hascending : conn.catalog.IsAscending) :
    (setUp m conn).2.committed.IsAscending := by
  have hprepare := prepare_tries (m := m) (c := conn.catalog)
  cases hrun : (prepare m).run conn with
  | mk result conn' =>
    cases result with
    | error cause =>
      obtain ⟨done, hstops⟩ := hprepare.error ⟨hidle, rfl⟩ hrun
      rw [setUp_of_error hrun, committed_of_nil hstops.isIdle]
      exact hstops.adds.isAscending hascending
    | ok _ =>
      have hreplayed := hprepare.ok ⟨hidle, rfl⟩ hrun
      rw [setUp_of_ok hrun]
      exact isAscending_migrate hrolls hreplayed.isIdle (hreplayed.adds.hasOwnRecords hown)
        (hreplayed.adds.isAscending hascending)

namespace Database

variable {db db' : Database}

namespace IsAscending

theorem run {s : Statement} (h : db.IsAscending) (hrun : db.run s = .ok db') :
    db'.IsAscending := by
  unfold Database.run at hrun
  cases hcatalog : (Catalog.ofDatabase db).run s with
  | error cause =>
    rw [hcatalog] at hrun
    cases hrun
  | ok c =>
    rw [hcatalog] at hrun
    cases hrun
    rw [(Catalog.run_eq_ok hcatalog).2]
    exact Catalog.isAscending_ensure h s

theorem migrate (h : db.IsAscending) : db.migrate.database.IsAscending := by
  have hown : (Catalog.ofDatabase db).HasOwnRecords := ⟨rfl, rfl⟩
  change (Store.migrate (.calm clock) (.new (.ofDatabase db) ())).2.committed.IsAscending
  apply isAscending_migrate (Machine.rollsBack_calm _)
  . rfl
  . exact hown
  . exact h

theorem setUp (h : db.IsAscending) : db.setUp.database.IsAscending := by
  have hown : (Catalog.ofDatabase db).HasOwnRecords := ⟨rfl, rfl⟩
  change (Store.setUp (.calm clock) (.new (.ofDatabase db) ())).2.committed.IsAscending
  apply isAscending_setUp (Machine.rollsBack_calm _)
  . rfl
  . exact hown
  . exact h

end IsAscending

/-- A database that arises from an empty one. Another connection may lock it at any time. -/
inductive Arises : Database → Prop
  | empty : Arises .empty
  | insert {db db' : Database} {name : TableName} {cells : List Cell} {id : Int64}
    (h : Arises db) (hinsert : db.insert name cells = .ok (db', id)) : Arises db'
  | delete {db db' : Database} {name : TableName} {column : String} {value : Cell} {count : Nat}
    (h : Arises db) (hdelete : db.delete name column value = .ok (db', count)) : Arises db'
  | setMeta {db db' : Database} {key : String} {value : Cell} (h : Arises db)
    (hset : db.setMeta key value = .ok db') : Arises db'
  | run {db db' : Database} {s : Statement} (h : Arises db) (hrun : db.run s = .ok db') : Arises db'
  | drop {db db' : Database} {name : TableName} (h : Arises db) (hdrop : db.drop name = .ok db') :
    Arises db'
  | migrate {db : Database} (h : Arises db) : Arises db.migrate.database
  | setUp {db : Database} (h : Arises db) : Arises db.setUp.database
  | lock {db : Database} (h : Arises db) (isLocked : Bool) : Arises { db with isLocked }

theorem Arises.isAscending (h : Arises db) : db.IsAscending := by
  induction h with
  | empty => exact .empty
  | insert _ hinsert ih => exact ih.insert hinsert
  | delete _ hdelete ih => exact ih.delete hdelete
  | setMeta _ hset ih => exact ih.setMeta hset
  | run _ hrun ih => exact ih.run hrun
  | drop _ hdrop ih => exact ih.drop hdrop
  | migrate _ ih => exact ih.migrate
  | setUp _ ih => exact ih.setUp
  | @lock db _ isLocked ih => exact ih.withFlags db.hasWriteAheadLog isLocked

end Database

end FreshIndex.Store
