import FreshIndex.Store.History

/-!
This module contains what each statement makes of a database if it succeeds, and the proof that the
rows of all tables stay in ascending order.
-/

namespace FreshIndex.Store

theorem bind_eq_ok {α β : Type} {x : Except StoreError α} {f : α → Except StoreError β} {b : β}
    (h : (x >>= f) = .ok b) : ∃ a, x = .ok a ∧ f a = .ok b := by
  cases x with
  | error e => cases h
  | ok a => exact ⟨a, rfl, h⟩

namespace Database

variable {db db' : Database} {name : TableName} {cells : List Cell} {id : Int64}

@[simp]
theorem table?_withIndexes (db : Database) (indexes : List IndexName) (name : TableName) :
    { db with indexes }.table? name = db.table? name := by
  cases name <;> rfl

@[simp]
theorem table?_withLog (db : Database) (hasWriteAheadLog : Bool) (name : TableName) :
    { db with hasWriteAheadLog }.table? name = db.table? name := by
  cases name <;> rfl

@[simp]
theorem isLocked_setTable (db : Database) (name : TableName) (t : Option Table) :
    (db.setTable name t).isLocked = db.isLocked := by
  cases name <;> rfl

/-! ### Statements that succeed -/

theorem require_eq_ok {t : Table} (h : db.require name = .ok t) : db.table? name = some t := by
  unfold require at h
  cases htable : db.table? name with
  | none =>
    rw [htable] at h
    cases h
  | some t' =>
    rw [htable] at h
    cases h
    rfl

theorem lock_eq_ok (h : db.lock = .ok ()) : db.isLocked = false := by
  unfold lock at h
  cases hlocked : db.isLocked with
  | false => rfl
  | true =>
    rw [hlocked] at h
    cases h

/-- The id that a new row gets. -/
def newId (name : TableName) (t : Table) (cells : List Cell) : Except StoreError Int64 :=
  if name.hasId then chosenId t (cells.getD 0 .null) else .ok (nextPlace t)

/-- The row that is made of the values that are given for it. -/
def newRow (name : TableName) (id : Int64) (cells : List Cell) : Row :=
  ⟨id, converted name (if name.hasId then .integer id :: cells.drop 1 else cells)⟩

def lastIdAfter (name : TableName) (t : Table) (id : Int64) : Int64 :=
  if name.hasId ∧ t.lastId < id then id else t.lastId

/-- An insertion puts one row into one table. -/
theorem insert_eq_ok (h : db.insert name cells = .ok (db', id)) :
    ∃ t, db.table? name = some t ∧ newId name t cells = .ok id ∧
      db' = db.setTable name
        (some ⟨insertRow (newRow name id cells) t.rows, lastIdAfter name t id⟩) := by
  unfold insert at h
  obtain ⟨t, ht, h⟩ := bind_eq_ok h
  obtain ⟨_, _, h⟩ := bind_eq_ok h
  obtain ⟨_, _, h⟩ := bind_eq_ok h
  obtain ⟨_, _, h⟩ := bind_eq_ok h
  refine ⟨t, require_eq_ok ht, ?_⟩
  unfold newId newRow lastIdAfter
  by_cases hid : name.hasId = true
  . simp only [hid, if_true] at h ⊢
    obtain ⟨id', hid', h⟩ := bind_eq_ok h
    obtain ⟨_, _, h⟩ := bind_eq_ok h
    obtain ⟨_, _, h⟩ := bind_eq_ok h
    obtain ⟨_, _, h⟩ := bind_eq_ok h
    cases h
    exact ⟨hid', rfl⟩
  . simp only [hid] at h ⊢
    obtain ⟨id', hid', h⟩ := bind_eq_ok h
    obtain ⟨_, _, h⟩ := bind_eq_ok h
    obtain ⟨_, _, h⟩ := bind_eq_ok h
    obtain ⟨_, _, h⟩ := bind_eq_ok h
    cases h
    exact ⟨hid', rfl⟩

theorem delete_eq_ok {column : String} {value : Cell} {count : Nat}
    (h : db.delete name column value = .ok (db', count)) :
    ∃ t keep, db.table? name = some t ∧
      db' = db.setTable name (some { t with rows := t.rows.filter keep }) := by
  unfold delete at h
  obtain ⟨t, ht, h⟩ := bind_eq_ok h
  cases hplace : column? name column with
  | none =>
    rw [hplace] at h
    cases h
  | some place =>
    rw [hplace] at h
    obtain ⟨_, _, h⟩ := bind_eq_ok h
    obtain ⟨_, _, h⟩ := bind_eq_ok h
    dsimp only at h
    rw [List.partition_eq_filter_filter] at h
    split at h
    . cases h
      exact ⟨t, _, require_eq_ok ht, rfl⟩
    . cases h

theorem drop_eq_ok (h : db.drop name = .ok db') :
    db' = { db.setTable name none with
      indexes := (db.setTable name none).indexes.filter (·.table != name) } := by
  unfold drop at h
  obtain ⟨_, _, h⟩ := bind_eq_ok h
  obtain ⟨_, _, h⟩ := bind_eq_ok h
  cases h
  rfl

theorem setMeta_eq_ok {key : String} {value : Cell} (h : db.setMeta key value = .ok db') :
    ∃ t keep row, db.indexMeta = some t ∧
      db' = db.setTable .indexMeta
        (some { t with rows := insertRow row (t.rows.filter keep) }) := by
  unfold setMeta at h
  obtain ⟨t, ht, h⟩ := bind_eq_ok h
  obtain ⟨_, _, h⟩ := bind_eq_ok h
  cases h
  exact ⟨t, _, _, require_eq_ok ht, rfl⟩

end Database

/-! ### Ascending rows -/

/-- The rows stand in ascending order. -/
def Table.IsAscending (t : Table) : Prop :=
  t.rows.Pairwise fun r s => r.id ≤ s.id

instance (t : Table) : Decidable t.IsAscending :=
  inferInstanceAs (Decidable (t.rows.Pairwise fun r s => r.id ≤ s.id))

theorem Table.isAscending_empty : Table.empty.IsAscending :=
  List.Pairwise.nil

theorem Table.isAscending_singleton (r : Row) (lastId : Int64) : IsAscending ⟨[r], lastId⟩ :=
  List.pairwise_singleton _ _

def Database.IsAscending (db : Database) : Prop :=
  ∀ name t, db.table? name = some t → t.IsAscending

theorem mem_insertRow {r s : Row} {rows : List Row} :
    s ∈ Database.insertRow r rows ↔ s = r ∨ s ∈ rows := by
  induction rows with
  | nil => simp [Database.insertRow]
  | cons first rest ih =>
    unfold Database.insertRow
    split
    . exact List.mem_cons
    . rw [List.mem_cons, ih, List.mem_cons, or_left_comm]

theorem pairwise_insertRow {rows : List Row} (r : Row)
    (h : rows.Pairwise fun r s => r.id ≤ s.id) :
    (Database.insertRow r rows).Pairwise fun r s => r.id ≤ s.id := by
  induction rows with
  | nil => exact List.pairwise_singleton _ _
  | cons first rest ih =>
    rw [List.pairwise_cons] at h
    unfold Database.insertRow
    split
    . next hless =>
      have hfirst := Int64.le_of_lt hless
      refine .cons ?_ (.cons h.1 h.2)
      intro s hs
      rcases List.mem_cons.mp hs with rfl | hs
      . exact hfirst
      . exact Int64.le_trans hfirst (h.1 s hs)
    . next hnotLess =>
      refine .cons ?_ (ih h.2)
      intro s hs
      rcases mem_insertRow.mp hs with rfl | hs
      . exact Int64.not_lt.mp hnotLess
      . exact h.1 s hs

namespace Database.IsAscending

variable {db db' : Database} {name : TableName} {cells : List Cell}

theorem empty : Database.empty.IsAscending := by
  intro name t h
  cases name <;> cases h

theorem setTable {t : Option Table} (h : db.IsAscending)
    (ht : ∀ t', t = some t' → t'.IsAscending) : (db.setTable name t).IsAscending := by
  intro other t' hother
  rw [table?_setTable] at hother
  split at hother
  . exact ht t' hother
  . exact h other t' hother

theorem withTable {t : Table} (h : db.IsAscending) (ht : t.IsAscending) :
    (db.setTable name (some t)).IsAscending := by
  apply h.setTable
  intro t' ht'
  rw [← Option.some.inj ht']
  exact ht

theorem insert {id : Int64} (h : db.IsAscending) (hinsert : db.insert name cells = .ok (db', id)) :
    db'.IsAscending := by
  obtain ⟨t, ht, _, rfl⟩ := insert_eq_ok hinsert
  exact h.withTable (pairwise_insertRow _ (h name t ht))

theorem delete {column : String} {value : Cell} {count : Nat} (h : db.IsAscending)
    (hdelete : db.delete name column value = .ok (db', count)) : db'.IsAscending := by
  obtain ⟨t, keep, ht, rfl⟩ := delete_eq_ok hdelete
  exact h.withTable ((h name t ht).filter _)

theorem withIndexes (h : db.IsAscending) (indexes : List IndexName) :
    { db with indexes }.IsAscending := by
  intro name t ht
  rw [table?_withIndexes] at ht
  exact h name t ht

theorem withFlags (h : db.IsAscending) (hasWriteAheadLog isLocked : Bool) :
    { db with hasWriteAheadLog, isLocked }.IsAscending := by
  intro name t ht
  apply h name t
  cases name <;> exact ht

theorem drop (h : db.IsAscending) (hdrop : db.drop name = .ok db') : db'.IsAscending := by
  rw [drop_eq_ok hdrop]
  apply withIndexes
  apply h.setTable
  intro _ hnone
  cases hnone

theorem setMeta {key : String} {value : Cell} (h : db.IsAscending)
    (hset : db.setMeta key value = .ok db') : db'.IsAscending := by
  obtain ⟨t, keep, row, ht, rfl⟩ := setMeta_eq_ok hset
  exact h.withTable (pairwise_insertRow _ ((h .indexMeta t ht).filter _))

end Database.IsAscending

end FreshIndex.Store
