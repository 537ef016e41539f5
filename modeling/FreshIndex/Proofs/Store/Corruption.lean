import Mathlib.Data.List.ProdSigma
import FreshIndex.Proofs.Store.Answers
import FreshIndex.Proofs.Store.Failures
import FreshIndex.Proofs.Store.Statements

/-!
This module contains what an enumeration does in a database whose cells have values of any type. It
ends at the first row that is bad. Before that, it shows the rows whose names are accepted.
-/

namespace FreshIndex

namespace Enumeration

open Store

/-- The condition that a query puts to the rows of an occurrence and of its symbol. -/
def selects (o s : Row) : Enumeration → Bool
  | occurrences usr roles => o.isText OccurrenceColumn.usr usr && Database.isInRoles roles o
  | containing _ _ => Database.isInRoles Role.canonical o
  | named name => s.isText SymbolColumn.name name && Database.isInRoles Role.canonical o

/-- The condition for the name of a symbol, which is looked at when its row has been read. -/
def accepts (name : String) : Enumeration → Bool
  | containing pattern options => Pattern.accepts options pattern name
  | _ => true

end Enumeration

namespace Store

section Except

variable {ε α β : Type}

/-- An action fails with one of its parts, whatever the parts before it have found. -/
theorem isOk_bind {x : Except ε α} {f : α → Except ε β} {p q : Bool} (hx : x.isOk = p)
    (hf : ∀ a, (f a).isOk = q) : (x >>= f).isOk = (p && q) := by
  subst hx
  cases x with
  | error e => rfl
  | ok a => exact hf a

theorem isOk_mapM {f : α → Except ε β} {p : α → Bool} (h : ∀ a, (f a).isOk = p a) (as : List α) :
    (as.mapM f).isOk = as.all p := by
  induction as with
  | nil => rfl
  | cons a rest ih =>
    rw [List.mapM_cons, List.all_cons, ← Bool.and_true (rest.all p)]
    exact isOk_bind (h a) fun _ => isOk_bind ih fun _ => rfl

theorem forall₂_of_mapM {R : α → β → Prop} {f : α → Except StoreError β} {as : List α}
    {bs : List β} (hR : ∀ a b, f a = .ok b → R a b) (h : as.mapM f = .ok bs) :
    List.Forall₂ R as bs := by
  induction as generalizing bs with
  | nil =>
    cases h
    exact .nil
  | cons a rest ih =>
    rw [List.mapM_cons] at h
    obtain ⟨b, hb, h⟩ := bind_eq_ok h
    obtain ⟨bs', hbs', h⟩ := bind_eq_ok h
    cases h
    exact .cons (hR a b hb) (ih hbs')

end Except

/-! ### Cells and rows that convert -/

/-- What the value of a cell is taken for. -/
inductive Reading
  | text
  | integer
  | word

namespace Cell

def converts : Reading → Cell → Bool
  | .text, text _ => true
  | .integer, integer _ => true
  | .word, integer n => 0 ≤ n.toInt ∧ n.toInt < UInt32.size
  | _, _ => false

variable (column : AnswerColumn) (c : Cell)

theorem isOk_readText : (readText column c).isOk = c.converts .text := by
  cases c <;> rfl

theorem isOk_readInteger : (readInteger column c).isOk = c.converts .integer := by
  cases c <;> rfl

theorem isOk_readFlag : (readFlag column c).isOk = c.converts .integer := by
  cases c <;> rfl

theorem isOk_readWord : (readWord column c).isOk = c.converts .word := by
  cases c with
  | integer n =>
    have hsize : (UInt32.size : Int) = Int.pow 2 32 := rfl
    simp only [readWord, readInteger, converts, bind, Except.bind, hsize]
    split
    . next h => exact (decide_eq_true h).symm
    . next h => exact (decide_eq_false h).symm
  | _ => rfl

theorem readText_eq_ok {column : AnswerColumn} {c : Cell} {s : String}
    (h : readText column c = .ok s) : c = .text s := by
  cases c <;> cases h
  rfl

theorem readInteger_eq_ok {column : AnswerColumn} {c : Cell} {n : Int64}
    (h : readInteger column c = .ok n) : c = .integer n := by
  cases c <;> cases h
  rfl

theorem readWord_eq_ok {column : AnswerColumn} {c : Cell} {word : UInt32}
    (h : readWord column c = .ok word) : ∃ n, c = .integer n ∧ n.toInt = word.toNat := by
  obtain ⟨n, hn, h⟩ := bind_eq_ok h
  refine ⟨n, readInteger_eq_ok hn, ?_⟩
  have hsize : Int.pow 2 32 = 4294967296 := rfl
  split at h
  . next hword =>
    cases h
    rw [hsize] at hword
    change n.toInt = (UInt32.ofNat n.toInt.toNat).toNat
    rw [UInt32.toNat_ofNat']
    omega
  . cases h

theorem readFlag_eq_ok {column : AnswerColumn} {c : Cell} {flag : Bool}
    (h : readFlag column c = .ok flag) : ∃ n, c = .integer n ∧ (flag = true ↔ n ≠ 0) := by
  obtain ⟨n, hn, h⟩ := bind_eq_ok h
  cases h
  exact ⟨n, readInteger_eq_ok hn, decide_eq_true_iff⟩

end Cell

theorem rolesToStored_rolesOfStored (n : Int64) : rolesToStored (rolesOfStored n) = n := by
  unfold rolesToStored rolesOfStored
  rw [Int64.toInt64_toUInt64]

def Row.converts (columns : List (Nat × Reading)) (r : Row) : Bool :=
  columns.all fun (place, reading) => (r.cell place).converts reading

/-- The columns that are read of an occurrence. -/
def occurrenceReadings : List (Nat × Reading) :=
  [(OccurrenceColumn.id, .integer), (OccurrenceColumn.usr, .text),
    (OccurrenceColumn.roles, .integer), (OccurrenceColumn.path, .text),
    (OccurrenceColumn.line, .word), (OccurrenceColumn.column, .word),
    (OccurrenceColumn.isSystem, .integer), (OccurrenceColumn.timestamp, .integer)]

/-- The columns that are read of its symbol. -/
def symbolReadings : List (Nat × Reading) :=
  [(SymbolColumn.name, .text), (SymbolColumn.kind, .text)]

def relationConverts (r s : Row) : Bool :=
  r.converts [(RelationColumn.roles, .integer)] &&
    s.converts [(SymbolColumn.usr, .text), (SymbolColumn.name, .text), (SymbolColumn.kind, .text)]

open Cell in
theorem OccurrenceRow.isOk_read (o s : Row) :
    (OccurrenceRow.read o s).isOk
      = (o.converts occurrenceReadings && s.converts symbolReadings) := by
  unfold OccurrenceRow.read
  dsimp only
  refine Eq.trans (isOk_bind (isOk_readText _ _) fun _ =>
    isOk_bind (isOk_readInteger _ _) fun _ => isOk_bind (isOk_readText _ _) fun _ =>
    isOk_bind (isOk_readText _ _) fun _ => isOk_bind (isOk_readInteger _ _) fun _ =>
    isOk_bind (isOk_readText _ _) fun _ => isOk_bind (isOk_readWord _ _) fun _ =>
    isOk_bind (isOk_readWord _ _) fun _ => isOk_bind (isOk_readFlag _ _) fun _ =>
    isOk_bind (isOk_readInteger _ _) fun _ => rfl) ?_
  simp only [Row.converts, occurrenceReadings, symbolReadings, List.all_cons, List.all_nil,
    Bool.and_true]
  ac_rfl

open Cell in
theorem isOk_readRelation (r s : Row) : (readRelation r s).isOk = relationConverts r s := by
  unfold readRelation
  dsimp only
  refine Eq.trans (isOk_bind (isOk_readText _ _) fun _ =>
    isOk_bind (isOk_readInteger _ _) fun _ => isOk_bind (isOk_readText _ _) fun _ =>
    isOk_bind (isOk_readText _ _) fun _ => rfl) ?_
  simp only [relationConverts, Row.converts, List.all_cons, List.all_nil, Bool.and_true]
  ac_rfl

/-! ### Rows that were read -/

/-- The row of an occurrence and that of its symbol have its values. -/
structure ColumnsSay (o s : Row) (occurrence : Occurrence) : Prop where
  usr : o.cell OccurrenceColumn.usr = .text occurrence.symbol.usr
  name : s.cell SymbolColumn.name = .text occurrence.symbol.name
  kind : ∃ name, s.cell SymbolColumn.kind = .text name ∧ occurrence.symbol.kind = .ofName name
  roles : o.cell OccurrenceColumn.roles = .integer (rolesToStored occurrence.roles)
  path : o.cell OccurrenceColumn.path = .text occurrence.location.path
  line : ∃ n, o.cell OccurrenceColumn.line = .integer n ∧ n.toInt = occurrence.location.line.toNat
  column : ∃ n, o.cell OccurrenceColumn.column = .integer n ∧
    n.toInt = occurrence.location.column.toNat
  isSystem : ∃ n, o.cell OccurrenceColumn.isSystem = .integer n ∧
    (occurrence.location.isSystem = true ↔ n ≠ 0)
  timestamp : ∃ n, o.cell OccurrenceColumn.timestamp = .integer n ∧
    occurrence.location.timestamp = .ofStored n

/-- The row of a relation and that of its symbol have its values. -/
structure RelationSays (p : Row × Row) (relation : Relation) : Prop where
  usr : p.2.cell SymbolColumn.usr = .text relation.symbol.usr
  name : p.2.cell SymbolColumn.name = .text relation.symbol.name
  kind : ∃ name, p.2.cell SymbolColumn.kind = .text name ∧ relation.symbol.kind = .ofName name
  roles : p.1.cell RelationColumn.roles = .integer (rolesToStored relation.roles)

theorem OccurrenceRow.read_eq_ok {o s : Row} {row : OccurrenceRow}
    (h : OccurrenceRow.read o s = .ok row) :
    o.cell OccurrenceColumn.id = .integer row.id ∧ ColumnsSay o s row.occurrence := by
  unfold OccurrenceRow.read at h
  obtain ⟨_, hkind, h⟩ := bind_eq_ok h
  obtain ⟨_, hid, h⟩ := bind_eq_ok h
  obtain ⟨_, husr, h⟩ := bind_eq_ok h
  obtain ⟨_, hname, h⟩ := bind_eq_ok h
  obtain ⟨_, hroles, h⟩ := bind_eq_ok h
  obtain ⟨_, hpath, h⟩ := bind_eq_ok h
  obtain ⟨_, hline, h⟩ := bind_eq_ok h
  obtain ⟨_, hcolumn, h⟩ := bind_eq_ok h
  obtain ⟨_, hisSystem, h⟩ := bind_eq_ok h
  obtain ⟨_, htimestamp, h⟩ := bind_eq_ok h
  cases h
  refine ⟨Cell.readInteger_eq_ok hid, ?_⟩
  constructor
  . exact Cell.readText_eq_ok husr
  . exact Cell.readText_eq_ok hname
  . exact ⟨_, Cell.readText_eq_ok hkind, rfl⟩
  . rw [rolesToStored_rolesOfStored]
    exact Cell.readInteger_eq_ok hroles
  . exact Cell.readText_eq_ok hpath
  . exact Cell.readWord_eq_ok hline
  . exact Cell.readWord_eq_ok hcolumn
  . exact Cell.readFlag_eq_ok hisSystem
  . exact ⟨_, Cell.readInteger_eq_ok htimestamp, rfl⟩

theorem readRelation_eq_ok {p : Row × Row} {relation : Relation}
    (h : readRelation p.1 p.2 = .ok relation) : RelationSays p relation := by
  unfold readRelation at h
  obtain ⟨_, hkind, h⟩ := bind_eq_ok h
  obtain ⟨_, hroles, h⟩ := bind_eq_ok h
  obtain ⟨_, husr, h⟩ := bind_eq_ok h
  obtain ⟨_, hname, h⟩ := bind_eq_ok h
  cases h
  constructor
  . exact Cell.readText_eq_ok husr
  . exact Cell.readText_eq_ok hname
  . exact ⟨_, Cell.readText_eq_ok hkind, rfl⟩
  . rw [rolesToStored_rolesOfStored]
    exact Cell.readInteger_eq_ok hroles

/-! ### Bad rows -/

/-- The name in the row of a symbol is accepted. -/
def isAccepted (accept : String → Bool) (p : Row × Row) : Bool :=
  match p.2.cell SymbolColumn.name with
  | .text name => accept name
  | _ => false

namespace Database

def rows (db : Database) (name : TableName) : List Row :=
  ((db.table? name).map Table.rows).getD []

/-- The rows of the relations of an occurrence, each with the row of its symbol. -/
def relationRows (db : Database) (o : Row) : List (Row × Row) :=
  let own := (db.rows .relations).filter fun r =>
    (r.cell RelationColumn.occurrence).same (o.cell OccurrenceColumn.id)
  (own ×ˢ db.rows .symbols).filter fun (r, s) =>
    (s.cell SymbolColumn.usr).same (r.cell RelationColumn.usr)

/--
The columns of a row do not convert, or the name is accepted and the row of a relation does not
convert.
-/
def isBad (db : Database) (accept : String → Bool) (p : Row × Row) : Bool :=
  !(p.1.converts occurrenceReadings && p.2.converts symbolReadings) ||
    (isAccepted accept p && !(db.relationRows p.1).all fun (r, s) => relationConverts r s)

end Database

theorem joined_eq_filter (rows symbols : List Row) (place : Nat) :
    joined rows symbols place
      = (rows ×ˢ symbols).filter fun p =>
          (p.2.cell SymbolColumn.usr).same (p.1.cell place) := by
  change _ = (List.product rows symbols).filter _
  unfold joined List.product
  rw [List.filter_flatMap]
  apply congrArg (rows.flatMap ·)
  funext r
  rw [List.filter_map]
  rfl

namespace Database

variable {db : Database} {accept : String → Bool}

theorem require_eq_rows {name : TableName} (h : db.table? name ≠ none) :
    ∃ t, db.require name = .ok t ∧ t.rows = db.rows name := by
  obtain ⟨t, ht⟩ := Option.ne_none_iff_exists'.mp h
  apply require_eq
  rw [rows, ht]
  rfl

theorem relationsOf_eq_mapM (htables : ∀ name, db.table? name ≠ none) {o : Row} {id : Int64}
    (hid : o.cell OccurrenceColumn.id = .integer id) :
    db.relationsOf id = (db.relationRows o).mapM fun (r, s) => readRelation r s := by
  obtain ⟨relations, hrelations, hrelationRows⟩ := require_eq_rows (htables .relations)
  obtain ⟨symbols, hsymbols, hsymbolRows⟩ := require_eq_rows (htables .symbols)
  unfold relationsOf relationRows
  rw [hrelations, hsymbols, hid, ← hrelationRows, ← hsymbolRows, ← joined_eq_filter]
  rfl

end Database

/-! ### Rows read one after the other -/

variable {db : Database} {accept : String → Bool} {p : Row × Row}

theorem isBad_of_error {cause : StoreError} (h : OccurrenceRow.read p.1 p.2 = .error cause) :
    db.isBad accept p = true := by
  have hconverts := OccurrenceRow.isOk_read p.1 p.2
  rw [h] at hconverts
  rw [Database.isBad, ← hconverts]
  rfl

/-- A row that was read is bad if its relations are needed and cannot be loaded. -/
theorem isBad_of_ok (htables : ∀ name, db.table? name ≠ none) (accept : String → Bool)
    {row : OccurrenceRow} (h : OccurrenceRow.read p.1 p.2 = .ok row) :
    isAccepted accept p = accept row.occurrence.symbol.name ∧
      db.isBad accept p
        = (accept row.occurrence.symbol.name && !(db.relationsOf row.id).isOk) := by
  obtain ⟨hid, hcolumns⟩ := OccurrenceRow.read_eq_ok h
  have haccept : isAccepted accept p = accept row.occurrence.symbol.name := by
    rw [isAccepted, hcolumns.name]
  refine ⟨haccept, ?_⟩
  have hconverts := OccurrenceRow.isOk_read p.1 p.2
  rw [h] at hconverts
  have hrelations : (db.relationsOf row.id).isOk
      = (db.relationRows p.1).all fun (r, s) => relationConverts r s := by
    rw [Database.relationsOf_eq_mapM htables hid]
    exact isOk_mapM (fun (q : Row × Row) => isOk_readRelation q.1 q.2) _
  rw [Database.isBad, ← hconverts, haccept, hrelations]
  rfl

/-- What a visit does with a row: it ends there, it passes it over, or it shows it. -/
theorem visit_cons_cases (htables : ∀ name, db.table? name ≠ none) (accept : String → Bool)
    (p : Row × Row) (rest : List (Row × Row)) :
    let more := visit db.relationsOf accept rest
    (db.isBad accept p = true ∧ ∃ cause, db.readOccurrence p = .error cause ∧
      visit db.relationsOf accept (p :: rest) = ⟨[], some cause⟩) ∨
    (db.isBad accept p = false ∧ isAccepted accept p = false ∧
      visit db.relationsOf accept (p :: rest) = more) ∨
    (db.isBad accept p = false ∧ isAccepted accept p = true ∧
      ∃ o, db.readOccurrence p = .ok o ∧
        visit db.relationsOf accept (p :: rest) = ⟨o :: more.visited, more.failure⟩) := by
  dsimp only
  rw [visit]
  cases hrow : OccurrenceRow.read p.1 p.2 with
  | error cause =>
    exact .inl ⟨isBad_of_error hrow, cause, db.readOccurrence_of_error hrow, rfl⟩
  | ok row =>
    obtain ⟨haccepted, hbad⟩ := isBad_of_ok htables accept hrow
    rw [haccepted, hbad, db.readOccurrence_of_ok hrow]
    dsimp only
    cases haccept : accept row.occurrence.symbol.name with
    | false => exact .inr (.inl ⟨rfl, rfl, rfl⟩)
    | true =>
      cases db.relationsOf row.id with
      | error cause => exact .inl ⟨rfl, cause, rfl, rfl⟩
      | ok relations => exact .inr (.inr ⟨rfl, rfl, _, rfl, rfl⟩)

/--
A visit shows the rows before the first bad one whose names are accepted, and it fails as the bad
one does.
-/
theorem visit_spec (htables : ∀ name, db.table? name ≠ none) (accept : String → Bool)
    (rows : List (Row × Row)) :
    List.Forall₂ (fun p o => db.readOccurrence p = .ok o)
        ((rows.takeWhile fun p => !db.isBad accept p).filter (isAccepted accept))
        (visit db.relationsOf accept rows).visited ∧
      Option.Rel (fun p cause => db.readOccurrence p = .error cause)
        (rows.find? (db.isBad accept)) (visit db.relationsOf accept rows).failure := by
  induction rows with
  | nil => exact ⟨.nil, .none⟩
  | cons p rest ih =>
    rw [List.takeWhile_cons, List.find?_cons]
    rcases visit_cons_cases htables accept p rest with ⟨hbad, cause, hcause, hvisit⟩ |
      ⟨hgood, hrejected, hvisit⟩ | ⟨hgood, haccepted, o, ho, hvisit⟩
    . rw [hvisit, hbad]
      exact ⟨.nil, .some hcause⟩
    . rw [hvisit, hgood, Bool.not_false, if_pos rfl,
        List.filter_cons_of_neg (by simp [hrejected])]
      exact ih
    . rw [hvisit, hgood, Bool.not_false, if_pos rfl, List.filter_cons_of_pos haccepted]
      exact ⟨.cons ho ih.1, ih.2⟩

/-! ### Occurrences that were shown -/

/-- An occurrence has the values in its row, in that of its symbol and in those of its relations. -/
structure Database.Says (db : Database) (p : Row × Row) (o : Occurrence) : Prop where
  columns : ColumnsSay p.1 p.2 o
  relations : List.Forall₂ RelationSays (db.relationRows p.1) o.relations

theorem says_of_readOccurrence (htables : ∀ name, db.table? name ≠ none) {o : Occurrence}
    (h : db.readOccurrence p = .ok o) : db.Says p o := by
  obtain ⟨row, hrow, h⟩ := bind_eq_ok h
  obtain ⟨relations, hrelations, h⟩ := bind_eq_ok h
  obtain ⟨hid, hcolumns⟩ := OccurrenceRow.read_eq_ok hrow
  cases h
  refine ⟨⟨hcolumns.usr, hcolumns.name, hcolumns.kind, hcolumns.roles, hcolumns.path,
    hcolumns.line, hcolumns.column, hcolumns.isSystem, hcolumns.timestamp⟩, ?_⟩
  rw [Database.relationsOf_eq_mapM htables hid] at hrelations
  exact forall₂_of_mapM (fun _ _ => readRelation_eq_ok) hrelations

/-! ### Enumerations -/

namespace Database

/-- The rows that meet the condition of a query, in the order of their ids. -/
def selected (db : Database) (e : Enumeration) : List (Row × Row) :=
  let found := (db.rows .occurrences ×ˢ db.rows .symbols).filter fun (o, s) =>
    (s.cell SymbolColumn.usr).same (o.cell OccurrenceColumn.usr) && e.selects o s
  found.mergeSort fun p q => p.1.id ≤ q.1.id

/-- The rows before the first bad one whose names are accepted. -/
def shown (db : Database) (e : Enumeration) : List (Row × Row) :=
  ((db.selected e).takeWhile fun p => !db.isBad e.accepts p).filter (isAccepted e.accepts)

/-- How an enumeration ends: at a stop, behind the last row or at a bad one, which is logged. -/
inductive Ends (db : Database) (e : Enumeration) : Flow → List Event → Prop
  | stopped : Ends db e .stop []
  | finished (hgood : ∀ p ∈ db.selected e, db.isBad e.accepts p = false) : Ends db e .proceed []
  | broken {p : Row × Row} {cause : StoreError}
    (hfirst : (db.selected e).find? (db.isBad e.accepts) = some p)
    (hcause : db.readOccurrence p = .error cause) :
    Ends db e .proceed [.log (.queryFailed e.query cause)]

theorem pairwise_product {os : List Row} (h : os.Pairwise fun o p => o.id ≤ p.id)
    (ss : List Row) : (os ×ˢ ss).Pairwise fun p q => p.1.id ≤ q.1.id := by
  change (List.product os ss).Pairwise _
  rw [List.product, List.pairwise_flatMap]
  constructor
  . intro o _
    rw [List.pairwise_map]
    exact List.pairwise_of_forall fun _ _ => Int64.le_refl _
  . apply h.imp
    intro o p hle x hx y hy
    obtain ⟨_, _, rfl⟩ := List.mem_map.mp hx
    obtain ⟨_, _, rfl⟩ := List.mem_map.mp hy
    exact hle

theorem pairwise_rows {db : Database} (hascending : db.IsAscending) (name : TableName) :
    (db.rows name).Pairwise fun r s => r.id ≤ s.id := by
  unfold rows
  cases htable : db.table? name with
  | none => exact .nil
  | some t => exact hascending name t htable

/-- The rows of a database are in order already. -/
theorem selected_eq_filter {db : Database} (hascending : db.IsAscending) (e : Enumeration) :
    db.selected e = (db.rows .occurrences ×ˢ db.rows .symbols).filter fun (o, s) =>
      (s.cell SymbolColumn.usr).same (o.cell OccurrenceColumn.usr) && e.selects o s := by
  apply List.mergeSort_of_pairwise
  apply ((pairwise_product (pairwise_rows hascending _) _).filter _).imp
  intro p q hle
  exact decide_eq_true hle

theorem visitedIn_eq_visit {db : Database} (htables : ∀ name, db.table? name ≠ none)
    (hascending : db.IsAscending) (e : Enumeration) :
    visitedIn db e = visit db.relationsOf e.accepts (db.selected e) := by
  obtain ⟨occurrences, hoccurrences, hoccurrenceRows⟩ := require_eq_rows (htables .occurrences)
  obtain ⟨symbols, hsymbols, hsymbolRows⟩ := require_eq_rows (htables .symbols)
  have hselected : db.selected e
      = (joined occurrences.rows symbols.rows OccurrenceColumn.usr).filter
          fun (o, s) => e.selects o s := by
    rw [selected_eq_filter hascending, joined_eq_filter, List.filter_filter, hoccurrenceRows,
      hsymbolRows]
    apply List.filter_congr
    intro p _
    exact Bool.and_comm _ _
  have hwhere : visitedIn db e = db.occurrencesWhere e.selects e.accepts := by
    cases e <;> rfl
  rw [hwhere, hselected, occurrencesWhere, occurrenceRows, hoccurrences, hsymbols]
  rfl

end Database

namespace StoredIndex

variable {σ τ : Type}

theorem ends_of_rel {db : Database} {e : Enumeration} {failure : Option StoreError}
    (h : Option.Rel (fun p cause => db.readOccurrence p = .error cause)
      ((db.selected e).find? (db.isBad e.accepts)) failure) (flow : Flow) :
    db.Ends e flow (if flow = .proceed then failureEvents e.query failure else []).reverse := by
  cases flow with
  | stop => exact .stopped
  | proceed =>
    generalize hfirst : (db.selected e).find? (db.isBad e.accepts) = first at h
    cases h with
    | none =>
      refine .finished ?_
      simpa using hfirst
    | some hcause => exact .broken hfirst hcause

/--
An enumeration shows the rows before the first bad one whose names are accepted, unless its visitor
stops it. It logs that it has failed if it has come to a bad row, and nothing else.
-/
theorem eachOf_ends (i : StoredIndex) (database : σ → Database) (w : World σ)
    (hconnect : i.canConnect = true) (htables : ∀ name, (database w.state).table? name ≠ none)
    (hascending : (database w.state).IsAscending) (e : Enumeration)
    (visitor : Occurrence → τ → Flow × τ) (t : τ) :
    ∃ os flow t' events,
      List.Forall₂ (database w.state).Says ((database w.state).shown e) os ∧
      Visits visitor os t flow t' ∧
      (database w.state).Ends e flow events ∧
      e.eachOf (i.toRawIndex database) visitor t w
        = ((flow, t'), ⟨w.state, events ++ .call e.call :: w.trace⟩) := by
  have hspec := visit_spec htables e.accepts ((database w.state).selected e)
  rw [← Database.visitedIn_eq_visit htables hascending e] at hspec
  obtain ⟨hread, hfailure⟩ := hspec
  have hshown := hread.imp fun _ _ => says_of_readOccurrence htables
  refine ⟨_, _, _, _, hshown, visit_visits visitor _ t, ends_of_rel hfailure _, ?_⟩
  rw [eachOf_toRawIndex, Scan.ask_each_eq, scan, if_pos hconnect]

/--
A type and four places of a function. The relations of the type and of the third place cannot be
read, nor can the line of the last one.
-/
def damaged : Database :=
  let place (id : Int64) (usr : String) (line : Cell) : Row :=
    ⟨id, [.integer id, .text usr, .integer (rolesToStored Role.canonical), .text "/f", line,
      .integer 1, .integer 0, .integer 0]⟩
  let relation (id occurrence : Int64) (roles : Cell) : Row :=
    ⟨id, [.integer id, .integer occurrence, roles, .text "s:A"]⟩
  { Contents.database ⟨[⟨1, "s:A", "Model", "struct"⟩, ⟨2, "s:f", "run", "function"⟩], [], [], []⟩
    with
    occurrences := some ⟨[place 1 "s:f" (.integer 1), place 2 "s:A" (.integer 2),
      place 3 "s:f" (.integer 3), place 4 "s:f" (.integer 4),
      place 5 "s:f" (.integer 4294967296)], 5⟩
    relations := some ⟨[relation 1 2 (.text "x"), relation 2 3 (.integer 1),
      relation 3 4 (.blob [0xFF])], 3⟩
    indexMeta := some .empty
    units := some .empty
    unitFiles := some .empty
    migrationHistory := some .empty }

theorem eachOf_damaged :
    let i : StoredIndex := ⟨.ofText "/index", 5000⟩
    let e : Enumeration := .containing "run" ⟨false, false, false, false⟩
    i.canConnect = true ∧ (∀ name, damaged.table? name ≠ none) ∧ damaged.IsAscending ∧
      (damaged.shown e).map (·.1.id) = [1, 3] ∧
      ((damaged.selected e).find? (damaged.isBad e.accepts)).map (·.1.id) = some 4 ∧
      ∃ os flow t' events,
        List.Forall₂ damaged.Says (damaged.shown e) os ∧
        Visits RawIndex.collect os [] flow t' ∧ damaged.Ends e flow events ∧
        e.eachOf (i.toRawIndex id) RawIndex.collect [] ⟨damaged, []⟩
          = ((flow, t'), ⟨damaged, events ++ [.call e.call]⟩) := by
  have htables : ∀ name, damaged.table? name ≠ none := by
    intro name
    cases name <;> exact Option.some_ne_none _
  have hascending : damaged.IsAscending := by
    intro name t h
    cases name <;> cases h <;> decide
  refine ⟨by decide, htables, hascending, ?_, ?_, ?_⟩
  . rw [Database.shown, Database.selected_eq_filter hascending]
    decide +kernel
  . rw [Database.selected_eq_filter hascending]
    decide +kernel
  exact eachOf_ends _ id ⟨damaged, []⟩ (by decide) htables hascending _ RawIndex.collect []

end StoredIndex

end Store

end FreshIndex
