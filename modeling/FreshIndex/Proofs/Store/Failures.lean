import FreshIndex.Proofs.Store.Contents
import FreshIndex.Proofs.Scene.View

/-!
This module contains what the index in a database answers when a query fails. Most lists are then
empty. The occurrences of a symbol are collected from an enumeration: the list has what was read
before the failure.
-/

namespace FreshIndex

variable {σ α : Type}

namespace World

/-- In the action it is logged that a query has failed, and why. -/
def LogsFailure (act : StateM (World σ) α) (w : World σ) (cause : Store.StoreError) : Prop :=
  ∃ events query, (act w).2.trace = events ++ w.trace ∧
    Event.log (.queryFailed query cause) ∈ events

/-- An action that asks one question fails if its failure is among the events of the answer. -/
theorem logsFailure_iff {act : StateM (World σ) α} {w : World σ} {cause : Store.StoreError}
    {call : Call} {events : List Event}
    (h : (act w).2.trace = events.reverse ++ .call call :: w.trace) :
    LogsFailure act w cause ↔ ∃ query, .log (.queryFailed query cause) ∈ events := by
  -- The trace before the action is on both sides, so that there is no choice in what is new.
  have hnew (new : List Event) :
      (act w).2.trace = new ++ w.trace ↔ new = events.reverse ++ [.call call] := by
    rw [h, ← List.singleton_append, ← List.append_assoc, List.append_left_inj, eq_comm]
  unfold LogsFailure
  simp only [hnew]
  constructor
  . rintro ⟨_, query, rfl, hmem⟩
    exact ⟨query, by simpa using hmem⟩
  . rintro ⟨query, hmem⟩
    exact ⟨_, query, rfl, by simpa using hmem⟩

theorem askIndex_eq (call : Call) (question : σ → Reply α × σ) (w : World σ) :
    askIndex call question w = ((question w.state).1.value,
      ⟨(question w.state).2, (question w.state).1.events.reverse ++ .call call :: w.trace⟩) := by
  unfold askIndex ask
  simp only [bind, StateT.bind, emitAll_eq]
  rfl

end World

namespace Store

/-! ### Rows read one after the other -/

namespace Database

/-- The occurrence that a row and the row of its symbol say, with its relations. -/
def readOccurrence (db : Database) (p : Row × Row) : Except StoreError Occurrence := do
  let row ← OccurrenceRow.read p.1 p.2
  let relations ← db.relationsOf row.id
  return { row.occurrence with relations }

theorem readOccurrence_of_error (db : Database) {p : Row × Row} {cause : StoreError}
    (h : OccurrenceRow.read p.1 p.2 = .error cause) : db.readOccurrence p = .error cause := by
  rw [readOccurrence, h]
  rfl

theorem readOccurrence_of_ok (db : Database) {p : Row × Row} {row : OccurrenceRow}
    (h : OccurrenceRow.read p.1 p.2 = .ok row) :
    db.readOccurrence p
      = (db.relationsOf row.id).map fun relations => { row.occurrence with relations } := by
  simp only [readOccurrence, h, bind, Except.bind]
  cases db.relationsOf row.id <;> rfl

/-- The rows that the occurrences of a symbol are read from. -/
def rowsOf (db : Database) (usr : String) (roles : Roles) : Except StoreError (List (Row × Row)) :=
  db.occurrenceRows.map fun rows =>
    rows.filter fun p => p.1.isText OccurrenceColumn.usr usr && isInRoles roles p.1

end Database

variable {db : Database} {usr : String} {roles : Roles}

/-- Rows are read in turn, to the last one or to the first that cannot be read. -/
inductive Reads (db : Database) : List (Row × Row) → List Occurrence → Option StoreError → Prop
  | ended : Reads db [] [] none
  | next {p : Row × Row} {rest : List (Row × Row)} {o : Occurrence} {os : List Occurrence}
    {failure : Option StoreError} (hread : db.readOccurrence p = .ok o)
    (hrest : Reads db rest os failure) : Reads db (p :: rest) (o :: os) failure
  | stuck {p : Row × Row} {rest : List (Row × Row)} {cause : StoreError}
    (hread : db.readOccurrence p = .error cause) : Reads db (p :: rest) [] (some cause)

theorem reads_visit (db : Database) (rows : List (Row × Row)) :
    Reads db rows (visit db.relationsOf (fun _ => true) rows).visited
      (visit db.relationsOf (fun _ => true) rows).failure := by
  induction rows with
  | nil => exact .ended
  | cons p rest ih =>
    rcases p with ⟨o, s⟩
    rw [visit]
    -- A row fails with one of its own cells or with one of its relations.
    cases hrow : OccurrenceRow.read o s with
    | error cause => exact .stuck (db.readOccurrence_of_error hrow)
    | ok row =>
      dsimp only
      rw [if_pos rfl]
      have hread := db.readOccurrence_of_ok (p := (o, s)) hrow
      cases hrelations : db.relationsOf row.id with
      | error cause =>
        rw [hrelations] at hread
        exact .stuck hread
      | ok relations =>
        rw [hrelations] at hread
        exact .next hread ih

/-- The occurrences of a symbol that are read before the query for them fails. -/
inductive ReadBefore (db : Database) (usr : String) (roles : Roles) (cause : StoreError) :
    List Occurrence → Prop
  | noTable (hrows : db.rowsOf usr roles = .error cause) : ReadBefore db usr roles cause []
  | unreadable {before after : List (Row × Row)} {p : Row × Row} {os : List Occurrence}
    (hrows : db.rowsOf usr roles = .ok (before ++ p :: after))
    (hread : List.Forall₂ (fun q o => db.readOccurrence q = .ok o) before os)
    (hstuck : db.readOccurrence p = .error cause) : ReadBefore db usr roles cause os

theorem Reads.exists_stuck {rows : List (Row × Row)} {os : List Occurrence} {cause : StoreError}
    (h : Reads db rows os (some cause)) :
    ∃ before p after, rows = before ++ p :: after ∧
      List.Forall₂ (fun q o => db.readOccurrence q = .ok o) before os ∧
      db.readOccurrence p = .error cause := by
  generalize hfailure : some cause = failure at h
  induction h with
  | ended => cases hfailure
  | next hread _ ih =>
    obtain ⟨before, p, after, rfl, hbefore, hstuck⟩ := ih hfailure
    exact ⟨_ :: before, p, after, rfl, .cons hread hbefore, hstuck⟩
  | @stuck p rest _ hread =>
    cases hfailure
    exact ⟨[], p, rest, rfl, .nil, hread⟩

theorem Reads.all {rows : List (Row × Row)} {os : List Occurrence} (h : Reads db rows os none) :
    List.Forall₂ (fun q o => db.readOccurrence q = .ok o) rows os := by
  generalize hfailure : none = failure at h
  induction h with
  | ended => exact .nil
  | next hread _ ih => exact .cons hread (ih hfailure)
  | stuck => cases hfailure

/-- The enumeration of the occurrences of a symbol reads their rows, if the tables are there. -/
theorem occurrencesOf_eq (db : Database) (usr : String) (roles : Roles) :
    db.occurrencesOf usr roles =
      match db.rowsOf usr roles with
      | .error cause => ⟨[], some cause⟩
      | .ok rows => visit db.relationsOf (fun _ => true) rows := by
  unfold Database.occurrencesOf Database.occurrencesWhere Database.rowsOf
  cases db.occurrenceRows <;> rfl

theorem readAll_of_noFailure (h : (db.occurrencesOf usr roles).failure = none) :
    ∃ rows, db.rowsOf usr roles = .ok rows ∧
      List.Forall₂ (fun q o => db.readOccurrence q = .ok o) rows
        (db.occurrencesOf usr roles).visited := by
  rw [occurrencesOf_eq] at h ⊢
  cases hrows : db.rowsOf usr roles with
  | error cause =>
    rw [hrows] at h
    cases h
  | ok rows =>
    rw [hrows] at h
    have hreads := reads_visit db rows
    rw [h] at hreads
    exact ⟨rows, rfl, hreads.all⟩

theorem readBefore_of_failure {cause : StoreError}
    (h : (db.occurrencesOf usr roles).failure = some cause) :
    ReadBefore db usr roles cause (db.occurrencesOf usr roles).visited := by
  rw [occurrencesOf_eq] at h ⊢
  cases hrows : db.rowsOf usr roles with
  | error e =>
    rw [hrows] at h
    cases h
    exact .noTable hrows
  | ok rows =>
    rw [hrows] at h
    have hreads := reads_visit db rows
    rw [h] at hreads
    obtain ⟨before, p, after, hsplit, hread, hstuck⟩ := hreads.exists_stuck
    rw [hsplit] at hrows
    exact .unreadable hrows hread hstuck

/-- There is no row, or the first one cannot be read. -/
def FailsAtOnce (db : Database) (usr : String) (roles : Roles) : Prop :=
  ∀ rows, db.rowsOf usr roles = .ok rows → ∀ p ∈ rows.head?, ∀ o, db.readOccurrence p ≠ .ok o

theorem ReadBefore.eq_nil_iff {cause : StoreError} {os : List Occurrence}
    (h : ReadBefore db usr roles cause os) : os = [] ↔ FailsAtOnce db usr roles := by
  unfold FailsAtOnce
  cases h with
  | noTable hrows => simp [hrows]
  | @unreadable before after p _ hrows hread hstuck =>
    simp only [hrows, Except.ok.injEq, forall_eq']
    cases hread with
    | nil => simp [hstuck]
    | cons hfirst _ => simp [hfirst]

/-! ### Answers -/

namespace StoredIndex

variable {i : StoredIndex} {query query' : StoredQuery} {cause : StoreError}

theorem cause_of_mem_failureEvents {failure : Option StoreError}
    (h : Event.log (.queryFailed query' cause) ∈ failureEvents query failure) :
    failure = some cause := by
  cases failure with
  | none => cases h
  | some e =>
    rw [failureEvents, Option.map_some, Option.toList_some, List.mem_singleton] at h
    cases h
    rfl

theorem reply_of_failure {fallback : α} {result : Except StoreError α}
    (h : Event.log (.queryFailed query' cause) ∈ (i.reply query fallback result).events) :
    (i.reply query fallback result).value = fallback := by
  unfold reply at h ⊢
  split
  . cases result with
    | ok value =>
      rw [if_pos ‹_›] at h
      cases h
    | error e => rfl
  . rfl

theorem scan_of_failure {outcome : Outcome}
    (h : Event.log (.queryFailed query' cause) ∈ (i.scan query outcome).closing) :
    (i.scan query outcome).visited = outcome.visited ∧ outcome.failure = some cause := by
  unfold scan at h ⊢
  by_cases hconnect : i.canConnect = true
  . rw [if_pos hconnect] at h ⊢
    exact ⟨rfl, cause_of_mem_failureEvents h⟩
  . rw [if_neg hconnect] at h
    simp at h

theorem askIndex_of_failure {call : Call} {question : σ → Reply (List α) × σ} {w : World σ}
    {result : Except StoreError (List α)}
    (hreply : (question w.state).1 = i.reply query [] result)
    (h : World.LogsFailure (World.askIndex call question) w cause) :
    (World.askIndex call question w).1 = [] := by
  rw [World.logsFailure_iff (by rw [World.askIndex_eq]), hreply] at h
  obtain ⟨_, hmem⟩ := h
  rw [World.askIndex_eq, hreply]
  exact reply_of_failure hmem

theorem unitTestsFor_of_failure {database : σ → Database} {w : World σ} {paths : List String}
    (h : World.LogsFailure ((i.toRawIndex database).unitTestsFor paths) w cause) :
    ((i.toRawIndex database).unitTestsFor paths w).1 = [] := by
  have hquestion : ((i.toRawIndex database).unitTestsOf paths w.state).1
      = i.unitTestsReply (database w.state) paths := rfl
  unfold unitTestsReply at hquestion
  by_cases hempty : paths.isEmpty = true
  . rw [RawIndex.unitTestsFor, World.askIndex_eq, hquestion, if_pos hempty]
  . rw [if_neg hempty] at hquestion
    exact askIndex_of_failure hquestion h

theorem occurrencesOf_of_failure {database : σ → Database} {w : World σ}
    (h : World.LogsFailure ((i.toRawIndex database).occurrencesOf usr roles) w cause) :
    ReadBefore (database w.state) usr roles cause
      ((i.toRawIndex database).occurrencesOf usr roles w).1 := by
  rw [World.logsFailure_iff (by rw [RawIndex.occurrencesOf_eq])] at h
  obtain ⟨_, hmem⟩ := h
  obtain ⟨hvisited, hfailure⟩ := scan_of_failure hmem
  rw [RawIndex.occurrencesOf_eq]
  change ReadBefore _ _ _ _ (i.scan _ _).visited
  rw [hvisited]
  exact readBefore_of_failure hfailure

theorem occurrencesOf_of_noFailure {database : σ → Database} {w : World σ}
    (hconnect : i.canConnect = true)
    (h : ∀ cause, ¬ World.LogsFailure ((i.toRawIndex database).occurrencesOf usr roles) w cause) :
    ∃ rows, (database w.state).rowsOf usr roles = .ok rows ∧
      List.Forall₂ (fun q o => (database w.state).readOccurrence q = .ok o) rows
        ((i.toRawIndex database).occurrencesOf usr roles w).1 := by
  have hanswer : ((i.toRawIndex database).occurrences usr roles w.state).1
      = i.scan .occurrences ((database w.state).occurrencesOf usr roles) := rfl
  rw [scan, if_pos hconnect] at hanswer
  have hnone : ((database w.state).occurrencesOf usr roles).failure = none := by
    cases hfailure : ((database w.state).occurrencesOf usr roles).failure with
    | none => rfl
    | some cause =>
      refine absurd ?_ (h cause)
      rw [World.logsFailure_iff (by rw [RawIndex.occurrencesOf_eq]), hanswer, hfailure]
      exact ⟨.occurrences, List.mem_singleton_self _⟩
  rw [RawIndex.occurrencesOf_eq, hanswer]
  exact readAll_of_noFailure hnone

/--
A list whose query fails is empty, but for the occurrences of a symbol. These are the ones read
before the failure, so that there are none only if already the first row cannot be read. They are
all there if no failure is logged.
-/
theorem lists_of_failure (i : StoredIndex) (database : σ → Database) (w : World σ)
    (cause : StoreError) :
    (∀ l : Listing, (∀ usr roles, l ≠ .occurrencesOf usr roles) →
      World.LogsFailure (l.found (i.toRawIndex database)) w cause →
      (l.found (i.toRawIndex database) w).1 = []) ∧
    (∀ path, World.LogsFailure ((i.toRawIndex database).symbolsIn path) w cause →
      ((i.toRawIndex database).symbolsIn path w).1 = []) ∧
    (∀ path crossLanguage,
      World.LogsFailure ((i.toRawIndex database).mainFilesOf path crossLanguage) w cause →
      ((i.toRawIndex database).mainFilesOf path crossLanguage w).1 = []) ∧
    (∀ usr roles, World.LogsFailure ((i.toRawIndex database).occurrencesOf usr roles) w cause →
      ReadBefore (database w.state) usr roles cause
        ((i.toRawIndex database).occurrencesOf usr roles w).1 ∧
      (((i.toRawIndex database).occurrencesOf usr roles w).1 = [] ↔
        FailsAtOnce (database w.state) usr roles)) ∧
    ∀ usr roles, i.canConnect = true →
      (∀ cause, ¬ World.LogsFailure ((i.toRawIndex database).occurrencesOf usr roles) w cause) →
      ∃ rows, (database w.state).rowsOf usr roles = .ok rows ∧
        List.Forall₂ (fun q o => (database w.state).readOccurrence q = .ok o) rows
          ((i.toRawIndex database).occurrencesOf usr roles w).1 := by
  refine ⟨?_, ?_, ?_, ?_, ?_⟩
  . intro l hne h
    cases l with
    | occurrencesOf usr roles => exact absurd rfl (hne usr roles)
    | relatedTo usr roles => exact askIndex_of_failure rfl h
    | unitTests => exact askIndex_of_failure rfl h
    | unitTestsFor paths => exact unitTestsFor_of_failure h
  . intro path h
    exact askIndex_of_failure rfl h
  . intro path crossLanguage h
    exact askIndex_of_failure rfl h
  . intro usr roles h
    have hread := occurrencesOf_of_failure h
    exact ⟨hread, hread.eq_nil_iff⟩
  . intro usr roles hconnect h
    exact occurrencesOf_of_noFailure hconnect h

end StoredIndex

/-- A symbol that occurs twice and is tested twice; the line of the second place is a text. -/
def unreadableLine : Database :=
  let row (id : Int64) (line : Cell) : Row :=
    ⟨id, [.integer id, .text "u", .integer 2, .text "/f", line, .integer 1, .integer 0, .integer 0]⟩
  { Contents.database ⟨[⟨1, "u", "u", "struct"⟩], [], [], [⟨1, 1, "/f"⟩, ⟨2, 2, "/f"⟩]⟩ with
    occurrences := some ⟨[row 1 (.integer 1), row 2 (.text "x")], 2⟩ }

/-- The tests cannot be read to the last one, so that there are none. -/
theorem StoredIndex.unitTests_unreadableLine :
    let index : RawIndex Database := StoredIndex.toRawIndex ⟨.ofText "/index", 5000⟩ id
    let cause : StoreError := .wrongType .text ⟨6, "line"⟩
    World.LogsFailure (index.allUnitTests) ⟨unreadableLine, []⟩ cause ∧
      (index.allUnitTests ⟨unreadableLine, []⟩).1 = [] := by
  have hfails : World.LogsFailure
      ((StoredIndex.toRawIndex ⟨.ofText "/index", 5000⟩ id).allUnitTests) ⟨unreadableLine, []⟩
      (.wrongType .text ⟨6, "line"⟩) := by
    refine ⟨[.log (.queryFailed .unitTests (.wrongType .text ⟨6, "line"⟩)), .call .unitTests],
      .unitTests, ?_, by simp⟩
    decide +kernel
  refine ⟨hfails, ?_⟩
  exact (StoredIndex.lists_of_failure _ _ _ _).1 .unitTests (by simp) hfails

/-- The first place is in the list of the occurrences, although the query has failed. -/
theorem StoredIndex.occurrencesOf_unreadableLine :
    let index : RawIndex Database := StoredIndex.toRawIndex ⟨.ofText "/index", 5000⟩ id
    World.LogsFailure (index.occurrencesOf "u" Role.definition) ⟨unreadableLine, []⟩
        (.wrongType .text ⟨6, "line"⟩) ∧
      (index.occurrencesOf "u" Role.definition ⟨unreadableLine, []⟩).1
        = [⟨⟨"/f", 1, 1, false, ⟨0⟩⟩, Role.definition, ⟨"u", "u", .ofName "struct"⟩, []⟩] := by
  refine ⟨⟨[.log (.queryFailed .occurrences (.wrongType .text ⟨6, "line"⟩)),
    .call (.occurrences "u" Role.definition)], .occurrences, ?_, by simp⟩, ?_⟩
  . decide +kernel
  . decide +kernel

end Store

end FreshIndex
