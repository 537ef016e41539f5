import FreshIndex.Proofs.Store.History
import FreshIndex.Store.Catalog

/-!
This module contains when a statement of the schema succeeds and what it adds then, whatever the
database is made of.
-/

namespace FreshIndex.Store.Catalog

variable {c c' : Catalog} {s : Statement} {name : TableName} {index : IndexName}

/-! ### What is added -/

@[simp]
theorem toDatabase_withDatabase (c : Catalog) (db : Database) :
    (c.withDatabase db).toDatabase = db :=
  rfl

@[simp]
theorem toDatabase_addTable (c : Catalog) (name : TableName) :
    (c.addTable name).toDatabase = c.setTable name (some .empty) :=
  rfl

@[simp]
theorem toDatabase_addIndex (c : Catalog) (index : IndexName) :
    (c.addIndex index).toDatabase = { c.toDatabase with indexes := c.indexes ++ [index] } :=
  rfl

theorem table?_addTable (c : Catalog) (name other : TableName) :
    (c.addTable name).table? other = if other = name then some .empty else c.table? other := by
  rw [toDatabase_addTable, Database.table?_setTable]

theorem lookup_foreign_addTable (c : Catalog) {name other : TableName} (h : other ≠ name) :
    (c.addTable name).foreign.lookup other = c.foreign.lookup other := by
  unfold addTable
  dsimp only
  induction c.foreign with
  | nil => rfl
  | cons entry rest ih =>
    obtain ⟨key, shape⟩ := entry
    by_cases hkey : key = name
    . have hother : (other == key) = false := by simpa [hkey] using h
      rw [List.filter_cons_of_neg (by simpa using hkey), ih, List.lookup_cons, hother]
    . rw [List.filter_cons_of_pos (by simpa using hkey), List.lookup_cons, List.lookup_cons, ih]

theorem lookup_foreign_addTable_self (c : Catalog) (name : TableName) :
    (c.addTable name).foreign.lookup name = none := by
  unfold addTable
  rw [List.lookup_eq_none_iff]
  intro entry hentry
  have hother : entry.1 ≠ name := by simpa using (List.mem_filter.mp hentry).2
  simpa using hother.symm

/-- Whether what a statement makes is there. -/
def has (c : Catalog) : Statement → Bool
  | .createTable name => (c.table? name).isSome
  | .createIndex index => c.hasIndex index

def add (c : Catalog) : Statement → Catalog
  | .createTable name => c.addTable name
  | .createIndex index => c.addIndex index

/-- What is there after a statement: if there is nothing to add, it leaves all as it is. -/
def ensure (c : Catalog) (s : Statement) : Catalog :=
  if c.has s then c else c.add s

/--
Whether a statement succeeds, if the tables are there that it needs. Nothing stands in the way of
one that has nothing to add, except that an index is only looked for on a table that can have one
and under a name that no table has.
-/
def admits (c : Catalog) : Statement → Bool
  | .createTable name =>
    (c.table? name).isSome || !c.hasIndexNamed name && !c.isLocked
  | .createIndex index =>
    (c.shape index.table).kind == .table && !c.hasRelationNamed index &&
      (c.hasIndex index ||
        index.columns.all (fun column => ((c.shape index.table).place? column).isSome) &&
          !c.isLocked)

/-! ### Statements that succeed -/

theorem createTable_eq_ok (h : c.createTable name = .ok c') :
    c.admits (.createTable name) = true ∧ c' = c.ensure (.createTable name) := by
  unfold createTable at h
  split at h
  . next hthere =>
    cases h
    simp [admits, ensure, has, hthere]
  . next hmissing =>
    split at h
    . cases h
    . next hname =>
      obtain ⟨_, hlock, h⟩ := bind_eq_ok h
      cases h
      simp [admits, ensure, has, add, hmissing, hname, Database.lock_eq_ok hlock]

theorem createTable_of_admits (h : c.admits (.createTable name) = true) :
    c.createTable name = .ok (c.ensure (.createTable name)) := by
  unfold admits at h
  unfold createTable ensure has add
  dsimp only at h ⊢
  split
  . rfl
  . next hmissing =>
    rw [Bool.not_eq_true] at hmissing
    rw [hmissing, Bool.false_or, Bool.and_eq_true, Bool.not_eq_true', Bool.not_eq_true'] at h
    rw [if_neg (by simp [h.1]), Database.lock, h.2]
    rfl

theorem requireIndexable_eq_ok (h : c.requireIndexable name = .ok ()) :
    (c.shape name).kind = .table := by
  unfold requireIndexable at h
  cases hkind : (c.shape name).kind with
  | table => rfl
  | view =>
    rw [hkind] at h
    cases h
  | virtualTable =>
    rw [hkind] at h
    cases h

theorem requireColumns_eq_ok :
    c.requireColumns index = .ok () ↔
      ∀ column ∈ index.columns, ((c.shape index.table).place? column).isSome = true := by
  unfold requireColumns
  cases hfind : index.columns.find? fun column => ((c.shape index.table).place? column).isNone with
  | none =>
    rw [List.find?_eq_none] at hfind
    simpa [Option.isSome_iff_ne_none] using hfind
  | some column =>
    have hmissing := List.find?_some hfind
    constructor
    . intro h
      cases h
    . intro h
      have hthere := h column (List.mem_of_find?_eq_some hfind)
      rw [Option.isNone_iff_eq_none] at hmissing
      rw [hmissing] at hthere
      cases hthere

/-- An index needs its table. -/
theorem createIndex_eq_ok (h : c.createIndex index = .ok c') :
    c.table? index.table ≠ none ∧ c.admits (.createIndex index) = true ∧
      c' = c.ensure (.createIndex index) := by
  unfold createIndex at h
  obtain ⟨_, hbehind, h⟩ := bind_eq_ok h
  obtain ⟨_, hkind, h⟩ := bind_eq_ok h
  have hkind := requireIndexable_eq_ok hkind
  refine ⟨?_, ?_⟩
  . intro hmissing
    unfold Database.requireBehind at hbehind
    rw [hmissing] at hbehind
    cases hbehind
  . split at h
    . cases h
    . next hname =>
      split at h
      . next hthere =>
        cases h
        simp [admits, ensure, has, hkind, hname, hthere]
      . next hmissing =>
        obtain ⟨_, hcolumns, h⟩ := bind_eq_ok h
        obtain ⟨_, hlock, h⟩ := bind_eq_ok h
        cases h
        have hcolumns := requireColumns_eq_ok.mp hcolumns
        simp [admits, ensure, has, add, hkind, hname, hmissing, Database.lock_eq_ok hlock,
          List.all_eq_true.mpr hcolumns]

theorem createIndex_of_admits (htable : c.table? index.table ≠ none)
    (h : c.admits (.createIndex index) = true) :
    c.createIndex index = .ok (c.ensure (.createIndex index)) := by
  obtain ⟨t, ht⟩ := Option.ne_none_iff_exists'.mp htable
  unfold admits at h
  dsimp only at h
  rw [Bool.and_eq_true, Bool.and_eq_true, Bool.not_eq_true', beq_iff_eq] at h
  obtain ⟨⟨hkind, hname⟩, hrest⟩ := h
  unfold createIndex ensure has add Database.requireBehind requireIndexable
  dsimp only
  rw [ht, hkind, if_neg (by simp [hname])]
  by_cases hthere : c.hasIndex index = true
  . rw [if_pos hthere, if_pos hthere]
    rfl
  . rw [if_neg hthere, if_neg hthere]
    rw [Bool.not_eq_true] at hthere
    rw [hthere, Bool.false_or, Bool.and_eq_true, Bool.not_eq_true'] at hrest
    rw [requireColumns_eq_ok.mpr (List.all_eq_true.mp hrest.1), Database.lock, hrest.2]
    rfl

theorem run_eq_ok (h : c.run s = .ok c') : c.admits s = true ∧ c' = c.ensure s := by
  cases s with
  | createTable name => exact createTable_eq_ok h
  | createIndex index => exact (createIndex_eq_ok h).2

theorem run_of_admits (htable : ∀ index, s = .createIndex index → c.table? index.table ≠ none)
    (h : c.admits s = true) : c.run s = .ok (c.ensure s) := by
  cases s with
  | createTable name => exact createTable_of_admits h
  | createIndex index => exact createIndex_of_admits (htable index rfl) h

theorem isAscending_ensure (h : c.IsAscending) (s : Statement) : (c.ensure s).IsAscending := by
  unfold ensure
  split
  . exact h
  . cases s with
    | createTable name => exact h.withTable Table.isAscending_empty
    | createIndex index => exact h.withIndexes _

/-! ### The version and the history -/

theorem version_congr (hmeta : c'.indexMeta = c.indexMeta)
    (hshape : c'.shape .indexMeta = c.shape .indexMeta) : c'.version = c.version := by
  unfold version
  rw [hmeta, hshape]

theorem version_bounds (c : Catalog) : -2147483648 ≤ c.version ∧ c.version ≤ 2147483647 := by
  unfold version
  split
  . apply Table.version_bounds
  . decide

theorem lookup_eq_none_of_isForeign (h : c.isForeign name = false) :
    c.foreign.lookup name = none := by
  unfold isForeign at h
  simpa using h

theorem shape_of_isForeign (h : c.isForeign name = false) : c.shape name = .ofSchema name := by
  unfold shape
  rw [lookup_eq_none_of_isForeign h, Option.getD_none, ite_self]

theorem version_of_isForeign (h : c.isForeign .indexMeta = false) :
    c.version = c.storedVersion := by
  have hkey : (Shape.ofSchema .indexMeta).place? "key" = some MetaColumn.key := by
    decide +kernel
  have hvalue : (Shape.ofSchema .indexMeta).place? "value" = some MetaColumn.value := by
    decide +kernel
  unfold version Database.storedVersion
  rw [shape_of_isForeign h, hkey, hvalue]
  cases c.indexMeta <;> rfl

theorem enter_eq_ok {given : Circumstances} {entry : Database → Except StoreError Database}
    (hown : c.isForeign name = false) (h : c.enter given name entry = .ok c') :
    ∃ db, entry c.toDatabase = .ok db ∧ c' = c.withDatabase db := by
  unfold enter at h
  rw [hown, if_neg (by simp)] at h
  obtain ⟨db, hentry, h⟩ := bind_eq_ok h
  cases h
  exact ⟨db, hentry, rfl⟩

end FreshIndex.Store.Catalog
