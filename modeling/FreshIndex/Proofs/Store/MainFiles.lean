import Mathlib.Data.List.Sort
import FreshIndex.Proofs.Store.Answers
import FreshIndex.Proofs.Text.Utf8

/-!
This module contains the proof that a database finds the main files of a path: the path itself, if
it is one, and after it the main files of all units that include it, each once and in order.
-/

namespace FreshIndex

theorem pairwise_lt_firstByKey_id {α : Type} [LinearOrder α] {items : List α}
    (h : items.Pairwise (· ≤ ·)) : (firstByKey id items).Pairwise (· < ·) := by
  apply ((pairwise_firstByKey h).and nodup_firstByKey_id).imp_of_mem
  rintro a b _ hb ⟨hle, hne⟩
  exact lt_of_le_of_ne (hle b (mem_of_mem_firstByKey hb) rfl) hne

namespace Store

variable {σ : Type} {db : Database}

/-! ### Records of units -/

/-- The column of names is the key of its table, but without a constraint against null. -/
structure UnitRecord where
  place : Int64
  name : Option String
  mainFile : String
  timestamp : Int64

def UnitRecord.row (u : UnitRecord) : Row :=
  ⟨u.place, [u.name.elim .null .text, .text u.mainFile, .integer u.timestamp]⟩

structure UnitFileRecord where
  place : Int64
  unit : String
  path : String
  crossLanguage : Int64

def UnitFileRecord.row (f : UnitFileRecord) : Row :=
  ⟨f.place, [.text f.unit, .text f.path, .integer f.crossLanguage]⟩

/-- The records of the tables that queries for main files read. -/
structure UnitContents where
  units : List UnitRecord
  files : List UnitFileRecord

/-- The tables are there, and their rows are those of the records. -/
structure Database.HoldsUnits (db : Database) (c : UnitContents) : Prop where
  units : db.units.map Table.rows = some (c.units.map UnitRecord.row)
  files : db.unitFiles.map Table.rows = some (c.files.map UnitFileRecord.row)

namespace UnitContents

variable {c : UnitContents} {path file : String} {crossLanguage : Bool}

/-- A database that has the records and nothing else. -/
def database (c : UnitContents) : Database where
  indexMeta := none
  symbols := none
  occurrences := none
  relations := none
  units := some ⟨c.units.map UnitRecord.row, 0⟩
  unitFiles := some ⟨c.files.map UnitFileRecord.row, 0⟩
  unitTests := none
  migrationHistory := none
  indexes := []
  hasWriteAheadLog := false
  isLocked := false

theorem holdsUnits_database (c : UnitContents) : c.database.HoldsUnits c :=
  ⟨rfl, rfl⟩

def IsMainFile (c : UnitContents) (file : String) : Prop :=
  ∃ u ∈ c.units, u.mainFile = file

/-- A unit with the main file includes the path, in its own language if no other one counts. -/
def Includes (c : UnitContents) (path : String) (crossLanguage : Bool) (file : String) : Prop :=
  ∃ f ∈ c.files, f.path = path ∧ (crossLanguage = true ∨ f.crossLanguage = 0) ∧
    ∃ u ∈ c.units, u.name = some f.unit ∧ u.mainFile = file

/-- What a list of the main files of a path has to be. -/
structure AreMainFiles (c : UnitContents) (path : String) (crossLanguage : Bool)
    (files : List String) : Prop where
  nodup : files.Nodup
  complete : ∀ file, file ∈ files ↔
    file = path ∧ c.IsMainFile path ∨ c.Includes path crossLanguage file
  itselfFirst : c.IsMainFile path → files.head? = some path
  ordered : (files.filter (· ≠ path)).Pairwise fun m n => Text.octets m < Text.octets n

/-- Two units of one file include a header from another language, and a third one from its own. -/
def sample : UnitContents where
  units := [
    ⟨1, some "u3", "/src/main.c", 50⟩,
    ⟨2, some "u1", "/src/a.swift", 100⟩,
    ⟨3, some "u2", "/src/a.swift", 300⟩]
  files := [
    ⟨1, "u3", "/src/header.h", 0⟩,
    ⟨2, "u1", "/src/header.h", 1⟩,
    ⟨3, "u2", "/src/header.h", 1⟩,
    ⟨4, "u1", "/src/a.swift", 0⟩]

/-! ### Main files in terms of the records -/

/-- The main files of the units that include a path, one for each row that says so. -/
def including (c : UnitContents) (path : String) (crossLanguage : Bool) : List String :=
  (c.files.filter fun f => f.path == path && (crossLanguage || f.crossLanguage == 0)).flatMap
    fun f => (c.units.filter (·.name == some f.unit)).map UnitRecord.mainFile

def includingInOrder (c : UnitContents) (path : String) (crossLanguage : Bool) : List String :=
  (c.including path crossLanguage).mergeSort (· ≤ ·)

def itself (c : UnitContents) (path : String) : List String :=
  if c.units.any (·.mainFile == path) then [path] else []

def mainFilesOf (c : UnitContents) (path : String) (crossLanguage : Bool) : List String :=
  firstByKey id (c.itself path ++ c.includingInOrder path crossLanguage)

theorem mem_includingInOrder :
    file ∈ c.includingInOrder path crossLanguage ↔ c.Includes path crossLanguage file := by
  simp [includingInOrder, including, Includes, and_assoc]

theorem Includes.isMainFile (h : c.Includes path crossLanguage file) : c.IsMainFile file := by
  obtain ⟨_, _, _, _, u, hu, _, hfile⟩ := h
  exact ⟨u, hu, hfile⟩

theorem Includes.acrossLanguages (h : c.Includes path false file) : c.Includes path true file := by
  obtain ⟨f, hf, hpath, _, hunit⟩ := h
  exact ⟨f, hf, hpath, .inl rfl, hunit⟩

theorem itself_of_isMainFile (h : c.IsMainFile path) : c.itself path = [path] := by
  obtain ⟨u, hu, rfl⟩ := h
  apply if_pos
  rw [List.any_eq_true]
  exact ⟨u, hu, beq_self_eq_true _⟩

theorem itself_of_not (h : ¬ c.IsMainFile path) : c.itself path = [] := by
  apply if_neg
  rw [List.any_eq_true]
  rintro ⟨u, hu, hfile⟩
  exact h ⟨u, hu, eq_of_beq hfile⟩

theorem mem_itself : file ∈ c.itself path ↔ file = path ∧ c.IsMainFile path := by
  by_cases h : c.IsMainFile path
  . simp [itself_of_isMainFile h, h]
  . simp [itself_of_not h, h]

/-- The main files of a path without the path itself. -/
def others (c : UnitContents) (path : String) (crossLanguage : Bool) : List String :=
  (firstByKey id (c.includingInOrder path crossLanguage)).filter (· ≠ path)

theorem mem_others :
    file ∈ c.others path crossLanguage ↔ c.Includes path crossLanguage file ∧ file ≠ path := by
  rw [others, List.mem_filter, decide_eq_true_iff, mem_firstByKey_id, mem_includingInOrder]

theorem pairwise_others (c : UnitContents) (path : String) (crossLanguage : Bool) :
    (c.others path crossLanguage).Pairwise (· < ·) :=
  (pairwise_lt_firstByKey_id (List.pairwise_mergeSort' _ _)).filter _

theorem mainFilesOf_eq_append (c : UnitContents) (path : String) (crossLanguage : Bool) :
    c.mainFilesOf path crossLanguage = c.itself path ++ c.others path crossLanguage := by
  unfold mainFilesOf others
  by_cases h : c.IsMainFile path
  . rw [itself_of_isMainFile h]
    rfl
  -- If the path is no main file, it is not the main file of a unit that includes it either.
  . rw [itself_of_not h, List.nil_append, List.nil_append, eq_comm, List.filter_eq_self]
    intro file hfile
    rw [decide_eq_true_iff]
    rintro rfl
    rw [mem_firstByKey_id, mem_includingInOrder] at hfile
    exact h hfile.isMainFile

theorem areMainFiles_mainFilesOf (c : UnitContents) (path : String) (crossLanguage : Bool) :
    c.AreMainFiles path crossLanguage (c.mainFilesOf path crossLanguage) := by
  refine ⟨nodup_firstByKey_id, ?_, ?_, ?_⟩
  . intro file
    rw [mainFilesOf, mem_firstByKey_id, List.mem_append, mem_itself, mem_includingInOrder]
  . intro h
    rw [mainFilesOf_eq_append, itself_of_isMainFile h]
    rfl
  . have hitself : (c.itself path).filter (· ≠ path) = [] := by
      rw [List.filter_eq_nil_iff]
      intro file hfile
      simpa using (mem_itself.mp hfile).1
    rw [mainFilesOf_eq_append, List.filter_append, hitself, List.nil_append]
    exact ((c.pairwise_others path crossLanguage).filter _).imp Text.octets_lt_octets

theorem mainFilesOf_sublist (c : UnitContents) (path : String) :
    (c.mainFilesOf path false).Sublist (c.mainFilesOf path true) := by
  have hwithin : c.others path false ⊆ c.others path true := by
    intro file h
    rw [mem_others] at h ⊢
    exact ⟨h.1.acrossLanguages, h.2⟩
  have hnodup : (c.others path false).Nodup := (c.pairwise_others path false).imp fun h => h.ne
  rw [mainFilesOf_eq_append, mainFilesOf_eq_append]
  apply List.Sublist.append_left
  exact List.sublist_of_subperm_of_pairwise (List.subperm_of_subset hnodup hwithin)
    (c.pairwise_others path false) (c.pairwise_others path true)

end UnitContents

/-! ### What the database finds -/

variable {c : UnitContents}

theorem UnitRecord.same_name (u : UnitRecord) (f : UnitFileRecord) :
    (u.row.cell UnitColumn.name).same (f.row.cell UnitFileColumn.unit)
      = (u.name == some f.unit) := by
  rcases u with ⟨place, name, mainFile, timestamp⟩
  cases name <;> rfl

theorem readText_sorted (column : AnswerColumn) (files : List String) :
    ((files.map Cell.text).mergeSort fun a b => (a.order b).isLE).mapM (·.readText column)
      = .ok (files.mergeSort (· ≤ ·)) := by
  have hsorted : (files.map Cell.text).mergeSort (fun a b => (a.order b).isLE)
      = (files.mergeSort (· ≤ ·)).map Cell.text := by
    rw [List.map_mergeSort]
    intro s _ t _
    change decide (s ≤ t) = (compare s t).isLE
    rw [Bool.eq_iff_iff, decide_eq_true_iff, Std.LawfulBCmp.isLE_iff_le]
  rw [hsorted, List.mapM_map]
  refine (mapM_eq_ok (g := id) _ fun _ _ => rfl).trans ?_
  rw [List.map_id]

theorem mainFilesOf_eq (hholds : db.HoldsUnits c) (path : String) (crossLanguage : Bool) :
    db.mainFilesOf path crossLanguage = .ok (c.mainFilesOf path crossLanguage) := by
  obtain ⟨units, hunits, hunitRows⟩ := require_eq .units hholds.units
  obtain ⟨files, hfiles, hfileRows⟩ := require_eq .unitFiles hholds.files
  have hitself : units.rows.any (Database.isUnitOf path)
      = c.units.any (·.mainFile == path) := by
    rw [hunitRows, List.any_map]
    rfl
  have hfound : ((files.rows.filter fun f => f.isText UnitFileColumn.path path &&
        (crossLanguage || (f.cell UnitFileColumn.crossLanguage).same (.integer 0))).flatMap fun f =>
      (units.rows.filter fun u => (u.cell UnitColumn.name).same (f.cell UnitFileColumn.unit)).map
        (·.cell UnitColumn.mainFile)) = (c.including path crossLanguage).map Cell.text := by
    rw [hfileRows, hunitRows, List.filter_map, List.flatMap_map, UnitContents.including,
      List.map_flatMap]
    apply congrArg (List.flatMap · _)
    funext f
    rw [List.filter_map, List.map_map, List.map_map]
    simp only [Function.comp_def, UnitRecord.same_name]
    rfl
  unfold Database.mainFilesOf
  rw [hunits, hfiles]
  simp only [bind, Except.bind]
  rw [hitself, hfound, readText_sorted]
  rfl

/--
The index finds the main files of a path, each once: the path itself first, if it is one, the others
in the order of their octets. Without other languages it finds no more, and those in the same order.
-/
theorem StoredIndex.mainFilesOf_complete (i : StoredIndex) (database : σ → Database) (w : World σ)
    (c : UnitContents) (hconnect : i.canConnect = true)
    (hholds : (database w.state).HoldsUnits c) (path : String) :
    ∃ files : Bool → List String,
      (∀ crossLanguage,
        Answers ((i.toRawIndex database).mainFilesOf path crossLanguage) w
          (.mainFiles path crossLanguage) (files crossLanguage) ∧
        c.AreMainFiles path crossLanguage (files crossLanguage)) ∧
      (files false).Sublist (files true) := by
  refine ⟨c.mainFilesOf path, ?_, c.mainFilesOf_sublist path⟩
  intro crossLanguage
  refine ⟨?_, c.areMainFiles_mainFilesOf path crossLanguage⟩
  apply answers_askIndex
  dsimp only [StoredIndex.toRawIndex]
  rw [mainFilesOf_eq hholds, StoredIndex.reply_eq hconnect]

theorem StoredIndex.mainFilesOf_sample :
    let i : StoredIndex := ⟨.ofText "/index", 5000⟩
    let c : UnitContents := .sample
    i.canConnect = true ∧ c.database.HoldsUnits c ∧
      c.Includes "/src/header.h" true "/src/a.swift" ∧
      ¬ c.Includes "/src/header.h" false "/src/a.swift" ∧
      ∃ files : Bool → List String,
        (∀ crossLanguage,
          Answers ((i.toRawIndex id).mainFilesOf "/src/header.h" crossLanguage) ⟨c.database, []⟩
            (.mainFiles "/src/header.h" crossLanguage) (files crossLanguage) ∧
          c.AreMainFiles "/src/header.h" crossLanguage (files crossLanguage)) ∧
        (files false).Sublist (files true) := by
  refine ⟨by decide, UnitContents.holdsUnits_database _, ?_, ?_, ?_⟩
  . simp [UnitContents.Includes, UnitContents.sample]
  . simp [UnitContents.Includes, UnitContents.sample]
  . exact mainFilesOf_complete ⟨.ofText "/index", 5000⟩ id ⟨UnitContents.sample.database, []⟩
      .sample (by decide) (UnitContents.holdsUnits_database _) "/src/header.h"

end Store

end FreshIndex
