import FreshIndex.Proofs.Number.Numeral
import FreshIndex.Proofs.Store.Statements

/-!
This module contains what it leaves in a database to keep a version or to put an entry into the
history.
-/

namespace FreshIndex.Store

/-! ### Rows in tables -/

theorem insertRow_eq_concat {r : Row} {rows : List Row} (h : ∀ s ∈ rows, s.id < r.id) :
    Database.insertRow r rows = rows ++ [r] := by
  induction rows with
  | nil => rfl
  | cons s rest ih =>
    rw [List.forall_mem_cons] at h
    rw [Database.insertRow, if_neg (Int64.not_lt.mpr (Int64.le_of_lt h.1)), ih h.2,
      List.cons_append]

theorem find?_insertRow {r : Row} {rows : List Row} {p : Row → Bool} (hr : p r = true)
    (h : rows.any p = false) : (Database.insertRow r rows).find? p = some r := by
  induction rows with
  | nil => rw [Database.insertRow, List.find?_cons_of_pos hr]
  | cons s rest ih =>
    rw [List.any_cons, Bool.or_eq_false_iff] at h
    rw [Database.insertRow]
    split
    . rw [List.find?_cons_of_pos hr]
    . rw [List.find?_cons_of_neg (by simp [h.1]), ih h.2]

def Table.largestId (t : Table) : Int :=
  (t.rows.getLast?.map (·.id.toInt)).getD 0

theorem Table.largestId_le (t : Table) : t.largestId ≤ Int64.maxValue.toInt := by
  unfold largestId
  cases t.rows.getLast? with
  | none => decide
  | some last => exact Int64.toInt_le _

theorem Table.IsAscending.le_largestId {t : Table} (h : t.IsAscending) {r : Row}
    (hr : r ∈ t.rows) : r.id.toInt ≤ t.largestId := by
  unfold IsAscending at h
  unfold largestId
  rcases List.eq_nil_or_concat t.rows with hrows | ⟨rest, last, hrows⟩
  . rw [hrows] at hr
    cases hr
  . rw [List.concat_eq_append] at hrows
    rw [hrows, List.pairwise_append] at h
    rw [hrows, List.mem_append, List.mem_singleton] at hr
    rw [hrows, List.getLast?_concat, Option.map_some, Option.getD_some]
    rcases hr with hr | rfl
    . exact Int64.le_iff_toInt_le.mp (h.2.2 r hr last (List.mem_singleton_self _))
    . exact Int.le_refl _

theorem nextId_eq (t : Table) :
    Database.nextId t =
      if t.largestId = Int64.maxValue.toInt ∨ t.lastId = Int64.maxValue then .error .full
      else .ok (.ofInt (max (t.largestId + 1) (t.lastId.toInt + 1))) :=
  rfl

/-- An id that is given out is greater than all that were used in the table. -/
theorem lt_of_nextId {t : Table} {id : Int64} (hascending : t.IsAscending)
    (h : Database.nextId t = .ok id) : (∀ r ∈ t.rows, r.id < id) ∧ t.lastId < id := by
  have hlargest := t.largestId_le
  have hlow := Int64.le_toInt t.lastId
  have hhigh := Int64.toInt_lt t.lastId
  rw [nextId_eq] at h
  split at h
  . cases h
  . next hroom =>
    rw [not_or, ← Int64.toInt_inj] at hroom
    rw [Int64.toInt_maxValue] at hlargest hroom
    have hid : id.toInt = max (t.largestId + 1) (t.lastId.toInt + 1) := by
      rw [← Except.ok.inj h]
      apply Int64.toInt_ofInt_of_le
      . omega
      . omega
    constructor
    . intro r hr
      have hle := hascending.le_largestId hr
      rw [Int64.lt_iff_toInt_lt]
      omega
    . rw [Int64.lt_iff_toInt_lt]
      omega

/-! ### The version -/

namespace Table

/-- A version that is read is an integer of 32 bits. -/
theorem version_bounds (t : Table) (key value : Nat) :
    -2147483648 ≤ t.version key value ∧ t.version key value ≤ 2147483647 := by
  unfold version
  split
  . next s _ =>
    cases hread : Numeral.readInt (Nat.pow 2 31 - 1) s.toList with
    | error e =>
      simp [Except.toOption]
    | ok version => exact Numeral.readInt_bounds hread
  . decide

theorem version_of_find? {t : Table} {r : Row} {key value : Nat} {target : Int}
    (hfind : t.rows.find? (·.isText key versionKey) = some r)
    (hvalue : r.cell value = .text (toString target)) (hlow : -2147483648 ≤ target)
    (hhigh : target ≤ 2147483647) : t.version key value = target := by
  unfold version
  rw [hfind, Option.map_some, hvalue]
  dsimp only
  rw [Numeral.readInt_toString hlow hhigh]
  rfl

end Table

namespace Database

variable {db db' : Database} {source target : Int} {moment : String} {status : StepStatus}

/-- The rows after the value of the version is replaced. -/
def keepVersion (version : Int) (rows : List Row) : List Row :=
  rows.map fun r =>
    if r.isText MetaColumn.key versionKey then
      { r with cells := [.text versionKey, .text (toString version)] }
    else r

theorem pairwise_keepVersion {rows : List Row} (h : rows.Pairwise fun r s => r.id ≤ s.id) :
    (keepVersion target rows).Pairwise fun r s => r.id ≤ s.id := by
  have hid (r : Row) : (if r.isText MetaColumn.key versionKey then
      { r with cells := [.text versionKey, .text (toString target)] } else r).id = r.id := by
    split <;> rfl
  unfold keepVersion
  rw [List.pairwise_map]
  simpa only [hid] using h

theorem find?_keepVersion {rows : List Row}
    (h : rows.any (·.isText MetaColumn.key versionKey) = true) :
    ∃ r, (keepVersion target rows).find? (·.isText MetaColumn.key versionKey) = some r ∧
      r.cell MetaColumn.value = .text (toString target) := by
  induction rows with
  | nil => cases h
  | cons s rest ih =>
    unfold keepVersion at ih ⊢
    rw [List.map_cons]
    by_cases hs : s.isText MetaColumn.key versionKey = true
    . rw [if_pos hs, List.find?_cons_of_pos rfl]
      exact ⟨_, rfl, rfl⟩
    . rw [if_neg hs, List.find?_cons_of_neg (by exact hs)]
      apply ih
      simpa [hs] using h

theorem setVersion_eq_ok (h : db.setVersion target = .ok db') (hlow : -2147483648 ≤ target)
    (hhigh : target ≤ 2147483647) :
    ∃ t, db' = db.setTable .indexMeta (some t) ∧ (db.IsAscending → t.IsAscending) ∧
      t.version MetaColumn.key MetaColumn.value = target := by
  unfold setVersion at h
  obtain ⟨t, ht, h⟩ := bind_eq_ok h
  obtain ⟨_, _, h⟩ := bind_eq_ok h
  have htable := require_eq_ok ht
  dsimp only at h
  -- A version is replaced where it stands. Without one, a row is added that is the only one with
  -- the key of the version.
  split at h
  . next hthere =>
    cases h
    refine ⟨_, rfl, ?_, ?_⟩
    . intro hascending
      exact pairwise_keepVersion (hascending _ _ htable)
    . obtain ⟨r, hfind, hvalue⟩ := find?_keepVersion hthere
      exact Table.version_of_find? hfind hvalue hlow hhigh
  . next hmissing =>
    obtain ⟨⟨_, id⟩, hinsert, h⟩ := bind_eq_ok h
    cases h
    obtain ⟨t', ht', _, rfl⟩ := insert_eq_ok hinsert
    have hsame : t' = t := Option.some.inj (ht'.symm.trans htable)
    subst hsame
    refine ⟨_, rfl, ?_, ?_⟩
    . intro hascending
      exact pairwise_insertRow _ (hascending _ _ htable)
    . rw [Bool.not_eq_true] at hmissing
      exact Table.version_of_find? (find?_insertRow rfl hmissing) rfl hlow hhigh

/-! ### The history -/

/-- An entry of the history: the step from a version to the next, and what came of it. -/
def historyRow (id : Int64) (source : Int) (moment : String) (status : StepStatus) : Row :=
  let (word, message) : String × Cell :=
    match status with
    | .success => ("success", .null)
    | .failed message => ("failed", .text message)
  ⟨id, [.integer id, .integer (.ofInt source), .integer (.ofInt (source + 1)), .text word, message,
    .text moment]⟩

def historyRows (db : Database) : List Row :=
  (db.migrationHistory.map Table.rows).getD []

/-- An entry is put behind the others, and its id was never used before. -/
theorem recordStep_eq_ok (hascending : db.IsAscending)
    (h : db.recordStep moment source (source + 1) status = .ok db') :
    ∃ t id, db.migrationHistory = some t ∧ (∀ r ∈ t.rows, r.id < id) ∧ t.lastId < id ∧
      db' = db.setTable .migrationHistory
        (some ⟨t.rows ++ [historyRow id source moment status], id⟩) := by
  unfold recordStep at h
  obtain ⟨⟨_, id⟩, hinsert, h⟩ := bind_eq_ok h
  cases h
  obtain ⟨t, ht, hid, rfl⟩ := insert_eq_ok hinsert
  obtain ⟨hgreater, hlast⟩ := lt_of_nextId (hascending _ _ ht) hid
  refine ⟨t, id, ht, hgreater, hlast, ?_⟩
  rw [insertRow_eq_concat hgreater, lastIdAfter, if_pos ⟨rfl, hlast⟩]
  cases status <;> rfl

end Database

end FreshIndex.Store
