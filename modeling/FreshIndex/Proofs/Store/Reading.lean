import FreshIndex.Proofs.Store.Contents

/-!
This module contains the proof that the rows of a sound database are read as what their records say:
cell by cell, joined with the rows of their symbols, and with their relations.
-/

namespace FreshIndex.Store

variable {db : Database} {c : Contents} {α : Type}

/-! ### Cells and rows -/

theorem Cell.readWord_ofNat (column : AnswerColumn) (n : UInt32) :
    Cell.readWord column (.integer (.ofNat n.toNat)) = .ok n := by
  have hn := n.toNat_lt
  have htoInt : (Int64.ofNat n.toNat).toInt = n.toNat := Int64.toInt_ofNat_of_lt (by omega)
  simp only [readWord, readInteger, bind, Except.bind, htoInt]
  rw [if_pos]
  . simp [pure, Except.pure]
  . have hbound : Int.pow 2 32 = 4294967296 := rfl
    rw [hbound]
    omega

theorem rolesOfStored_rolesToStored (r : Roles) : rolesOfStored (rolesToStored r) = r := by
  unfold rolesOfStored rolesToStored
  rw [UInt64.toUInt64_toInt64]

theorem rolesMeet_rolesToStored (r s : Roles) :
    rolesMeet (.integer (rolesToStored r)) s = r.intersects s := by
  unfold rolesMeet Roles.intersects Cell.bits rolesToStored
  dsimp only
  rw [← UInt64.toInt64_and, Bool.eq_iff_iff, bne_iff_ne, bne_iff_ne]
  apply not_congr
  constructor
  . intro h
    rw [← UInt64.toUInt64_toInt64 (r.bits &&& s.bits), h]
    rfl
  . intro h
    rw [h]
    rfl

theorem OccurrenceRow.read_row (o : OccurrenceRecord) (s : SymbolRecord) :
    OccurrenceRow.read o.row s.row
      = .ok ⟨o.id, ⟨o.location, o.roles, ⟨o.usr, s.name, .ofName s.kind⟩, []⟩⟩ := by
  have hline := Cell.readWord_ofNat (columnIn occurrenceAnswer "line") o.line
  have hcolumn := Cell.readWord_ofNat (columnIn occurrenceAnswer "utf8_column") o.column
  simp only [OccurrenceRow.read, OccurrenceRecord.row, SymbolRecord.row, Row.cell]
  simp [Cell.readText, Cell.readInteger, Cell.readFlag, hline, hcolumn,
    rolesOfStored_rolesToStored, OccurrenceRecord.location, Timestamp.ofStored, bind,
    Except.bind, pure, Except.pure]

theorem readRelation_row (r : RelationRecord) (s : SymbolRecord) :
    readRelation r.row s.row = .ok ⟨s.symbol, r.roles⟩ := by
  unfold readRelation SymbolRecord.symbol
  rw [← rolesOfStored_rolesToStored r.roles]
  rfl

theorem readSymbol_row (s : SymbolRecord) : readSymbol s.row = .ok s.symbol :=
  rfl

/-! ### Joins -/

/-- Records, each with the record of its symbol. -/
structure Joined (c : Contents) (key : α → String) (records : List α)
    (pairs : List (α × SymbolRecord)) : Prop where
  records : pairs.map Prod.fst = records
  symbols : ∀ p ∈ pairs, p.2 ∈ c.symbols ∧ p.2.usr = key p.1

theorem filter_usr_eq_singleton {symbols : List SymbolRecord} {s : SymbolRecord}
    (hnodup : (symbols.map SymbolRecord.usr).Nodup) (hs : s ∈ symbols) :
    symbols.filter (·.usr == s.usr) = [s] := by
  induction symbols with
  | nil => cases hs
  | cons s' rest ih =>
    rw [List.map_cons, List.nodup_cons] at hnodup
    obtain ⟨hnew, hnodup⟩ := hnodup
    rcases List.mem_cons.mp hs with rfl | hs
    . rw [List.filter_cons_of_pos (by simp)]
      have hnone : rest.filter (·.usr == s.usr) = [] := by
        rw [List.filter_eq_nil_iff]
        intro s' hs' hsame
        apply hnew
        rw [← eq_of_beq hsame]
        exact List.mem_map_of_mem hs'
      rw [hnone]
    . have hne : ¬ (s'.usr == s.usr) = true := by
        intro hsame
        apply hnew
        rw [eq_of_beq hsame]
        exact List.mem_map_of_mem hs
      rw [List.filter_cons, if_neg hne]
      exact ih hnodup hs

/-- In a join with the symbols every record stands once, with its own symbol. -/
theorem joined_eq (hnodup : (c.symbols.map SymbolRecord.usr).Nodup) (row : α → Row)
    (key : α → String) (place : Nat) (hkey : ∀ a, (row a).cell place = .text (key a))
    (as : List α) (hsymbols : ∀ a ∈ as, ∃ s ∈ c.symbols, s.usr = key a) :
    ∃ pairs, Joined c key as pairs ∧
      joined (as.map row) (c.symbols.map SymbolRecord.row) place
        = pairs.map (Prod.map row SymbolRecord.row) := by
  induction as with
  | nil => exact ⟨[], ⟨rfl, by simp⟩, rfl⟩
  | cons a rest ih =>
    obtain ⟨pairs, hpairs, hjoined⟩ := ih fun b hb => hsymbols b (List.mem_cons_of_mem _ hb)
    obtain ⟨s, hs, husr⟩ := hsymbols a List.mem_cons_self
    refine ⟨(a, s) :: pairs, ⟨?_, ?_⟩, ?_⟩
    . rw [List.map_cons, hpairs.records]
    . intro p hp
      rcases List.mem_cons.mp hp with rfl | hp
      . exact ⟨hs, husr⟩
      . exact hpairs.symbols p hp
    . unfold joined at hjoined ⊢
      have hown : (c.symbols.map SymbolRecord.row).filter
          (fun s => (s.cell SymbolColumn.usr).same ((row a).cell place)) = [s.row] := by
        rw [hkey, ← husr, List.filter_map]
        change (c.symbols.filter (·.usr == s.usr)).map SymbolRecord.row = _
        rw [filter_usr_eq_singleton hnodup hs]
        rfl
      rw [List.map_cons, List.flatMap_cons, hjoined, hown]
      rfl

/-! ### Tables -/

theorem require_eq {rows : List Row} (name : TableName)
    (h : (db.table? name).map Table.rows = some rows) :
    ∃ t, db.require name = .ok t ∧ t.rows = rows := by
  unfold Database.require
  cases htable : db.table? name with
  | none =>
    rw [htable] at h
    cases h
  | some t =>
    rw [htable] at h
    exact ⟨t, rfl, Option.some.inj h⟩

theorem mapM_eq_ok {ε β : Type} {f : α → Except ε β} {g : α → β} (as : List α)
    (h : ∀ a ∈ as, f a = .ok (g a)) : as.mapM f = .ok (as.map g) := by
  induction as with
  | nil => rfl
  | cons a rest ih =>
    rw [List.mapM_cons, h a List.mem_cons_self, ih fun b hb => h b (List.mem_cons_of_mem _ hb)]
    rfl

theorem Joined.forall₂ {β : Type} {key : α → String} {records : List α}
    {pairs : List (α × SymbolRecord)} {R : α → β → Prop} {f : α × SymbolRecord → β}
    (h : Joined c key records pairs) (hf : ∀ p ∈ pairs, R p.1 (f p)) :
    List.Forall₂ R records (pairs.map f) := by
  rw [← h.records]
  clear h
  induction pairs with
  | nil => exact .nil
  | cons p rest ih =>
    rw [List.forall_mem_cons] at hf
    exact .cons hf.1 (ih hf.2)

theorem relationsOf_eq (hholds : db.Holds c) (hsound : c.IsSound) (o : OccurrenceRecord) :
    ∃ relations, db.relationsOf o.id = .ok relations ∧
      List.Forall₂ c.IsRelation (c.relationsOf o) relations := by
  obtain ⟨relations, hrelations, hrelationRows⟩ := require_eq .relations hholds.relations
  obtain ⟨symbols, hsymbols, hsymbolRows⟩ := require_eq .symbols hholds.symbols
  obtain ⟨pairs, hpairs, hjoined⟩ := joined_eq hsound.symbols RelationRecord.row
    RelationRecord.usr RelationColumn.usr (fun r => rfl) (c.relationsOf o)
    fun r hr => hsound.relationSymbols r (List.mem_filter.mp hr).1
  have hrows : relations.rows.filter
      (fun r => (r.cell RelationColumn.occurrence).same (.integer o.id))
        = (c.relationsOf o).map RelationRecord.row := by
    rw [hrelationRows, List.filter_map]
    rfl
  refine ⟨pairs.map fun p => ⟨p.2.symbol, p.1.roles⟩, ?_, ?_⟩
  . unfold Database.relationsOf
    rw [hrelations, hsymbols]
    simp only [bind, Except.bind]
    rw [hrows, hsymbolRows, hjoined, List.mapM_map]
    apply mapM_eq_ok
    intro p hp
    apply readRelation_row
  . apply hpairs.forall₂
    intro p hp
    obtain ⟨hmem, husr⟩ := hpairs.symbols p hp
    exact ⟨⟨p.2, hmem, husr, rfl⟩, rfl⟩

theorem occurrenceRows_eq (hholds : db.Holds c) (hsound : c.IsSound) :
    ∃ pairs, Joined c OccurrenceRecord.usr c.occurrences pairs ∧
      db.occurrenceRows = .ok (pairs.map (Prod.map OccurrenceRecord.row SymbolRecord.row)) := by
  obtain ⟨occurrences, hoccurrences, hoccurrenceRows⟩ := require_eq .occurrences hholds.occurrences
  obtain ⟨symbols, hsymbols, hsymbolRows⟩ := require_eq .symbols hholds.symbols
  obtain ⟨pairs, hpairs, hjoined⟩ := joined_eq hsound.symbols OccurrenceRecord.row
    OccurrenceRecord.usr OccurrenceColumn.usr (fun o => rfl) c.occurrences hsound.occurrenceSymbols
  refine ⟨pairs, hpairs, ?_⟩
  unfold Database.occurrenceRows
  rw [hoccurrences, hsymbols]
  simp only [bind, Except.bind]
  rw [hoccurrenceRows, hsymbolRows, hjoined]
  rfl

/-- Rows are read to the last, and those with an accepted name give what their records say. -/
theorem visit_eq (hholds : db.Holds c) (hsound : c.IsSound) (accept : String → Bool)
    (pairs : List (OccurrenceRecord × SymbolRecord))
    (hpairs : ∀ p ∈ pairs, p.2 ∈ c.symbols ∧ p.2.usr = p.1.usr) :
    ∃ os, visit db.relationsOf accept
        (pairs.map (Prod.map OccurrenceRecord.row SymbolRecord.row)) = ⟨os, none⟩ ∧
      List.Forall₂ c.IsOccurrence ((pairs.filter fun p => accept p.2.name).map Prod.fst) os := by
  induction pairs with
  | nil => exact ⟨[], rfl, .nil⟩
  | cons p rest ih =>
    rw [List.forall_mem_cons] at hpairs
    obtain ⟨os, hvisit, heach⟩ := ih hpairs.2
    rcases p with ⟨o, s⟩
    rw [List.map_cons, Prod.map_apply, visit, OccurrenceRow.read_row]
    dsimp only
    rw [hvisit]
    by_cases haccept : accept s.name = true
    . obtain ⟨relations, hrelations, heachRelation⟩ := relationsOf_eq hholds hsound o
      rw [if_pos haccept, hrelations, List.filter_cons_of_pos (by exact haccept), List.map_cons]
      refine ⟨_, rfl, .cons ⟨rfl, rfl, ?_, heachRelation⟩ heach⟩
      obtain ⟨hmem, husr⟩ := hpairs.1
      have hsymbol : s.symbol = ⟨o.usr, s.name, .ofName s.kind⟩ := by
        rw [← husr]
        rfl
      exact ⟨s, hmem, husr, hsymbol⟩
    . rw [if_neg haccept, List.filter_cons_of_neg (by exact haccept)]
      exact ⟨os, rfl, heach⟩

end FreshIndex.Store
