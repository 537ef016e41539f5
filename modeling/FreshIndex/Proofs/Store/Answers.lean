import FreshIndex.Proofs.Store.Reading

/-!
This module contains the proof that the index of a sound database answers what the records say: the
occurrences that meet the condition of a query, each once, in the order of their ids.
-/

namespace FreshIndex.Store

variable {σ : Type} {db : Database} {c : Contents}

theorem any_usr (hsound : c.IsSound) {s : SymbolRecord} (hs : s ∈ c.symbols)
    (accept : SymbolRecord → Bool) :
    (c.symbols.any fun s' => s'.usr == s.usr && accept s') = accept s := by
  have hown := filter_usr_eq_singleton hsound.symbols hs
  rw [← List.any_filter, hown]
  simp

/-- Of the joined rows, the query keeps those of the records that are `selected`. -/
theorem occurrencesWhere_eq (hholds : db.Holds c) (hsound : c.IsSound)
    (condition : Row → Row → Bool) (accept : String → Bool) (selected : OccurrenceRecord → Bool)
    (h : ∀ o ∈ c.occurrences, ∀ s ∈ c.symbols, s.usr = o.usr →
      selected o = (accept s.name && condition o.row s.row)) :
    ∃ os, db.occurrencesWhere condition accept = ⟨os, none⟩ ∧
      c.Yields (c.occurrences.filter selected) os := by
  obtain ⟨pairs, hpairs, hrows⟩ := occurrenceRows_eq hholds hsound
  obtain ⟨os, hvisit, heach⟩ := visit_eq hholds hsound accept
    (pairs.filter fun p => condition p.1.row p.2.row)
    fun p hp => hpairs.symbols p (List.mem_filter.mp hp).1
  refine ⟨os, ?_, ?_⟩
  . unfold Database.occurrencesWhere
    rw [hrows]
    dsimp only
    rw [List.filter_map]
    exact hvisit
  . have hselected : c.occurrences.filter selected
        = ((pairs.filter fun p => condition p.1.row p.2.row).filter
          fun p => accept p.2.name).map Prod.fst := by
      rw [List.filter_filter, ← hpairs.records, List.filter_map]
      apply congrArg
      apply List.filter_congr
      intro p hp
      obtain ⟨hs, husr⟩ := hpairs.symbols p hp
      refine h p.1 ?_ p.2 hs husr
      rw [← hpairs.records]
      exact List.mem_map_of_mem hp
    refine ⟨hsound.occurrences.filter _, fun o _ => hsound.relations.filter _, ?_⟩
    rw [hselected]
    exact heach

theorem isInRoles_row (roles : Roles) (o : OccurrenceRecord) :
    Database.isInRoles roles o.row = o.roles.intersects roles :=
  rolesMeet_rolesToStored o.roles roles

theorem isNamed_eq (hsound : c.IsSound) {o : OccurrenceRecord} {s : SymbolRecord}
    (hs : s ∈ c.symbols) (husr : s.usr = o.usr) (accept : String → Bool) :
    c.isNamed accept o = accept s.name := by
  unfold Contents.isNamed
  rw [← husr]
  exact any_usr hsound hs fun s => accept s.name

/-- What an enumeration of the database has to visit. -/
def visitedIn (db : Database) : Enumeration → Outcome
  | .occurrences usr roles => db.occurrencesOf usr roles
  | .containing pattern options => db.occurrencesContaining pattern options
  | .named name => db.occurrencesNamed name

theorem visitedIn_eq (hholds : db.Holds c) (hsound : c.IsSound) (e : Enumeration) :
    ∃ os, visitedIn db e = ⟨os, none⟩ ∧ c.Yields (c.occurrences.filter (c.visits · e)) os := by
  unfold visitedIn
  cases e with
  | occurrences usr roles =>
    apply occurrencesWhere_eq hholds hsound
    intro o _ s _ _
    rw [isInRoles_row, Bool.true_and]
    rfl
  | containing pattern options =>
    apply occurrencesWhere_eq hholds hsound
    intro o _ s hs husr
    rw [isInRoles_row, ← isNamed_eq hsound hs husr (Pattern.accepts options pattern),
      Bool.and_comm]
    rfl
  | named name =>
    apply occurrencesWhere_eq hholds hsound
    intro o _ s hs husr
    have hname : s.row.isText SymbolColumn.name name = c.isNamed (· == name) o :=
      (isNamed_eq hsound hs husr (· == name)).symm
    rw [isInRoles_row, hname, Bool.true_and, Bool.and_comm]
    rfl

theorem occurrencesWithIds_eq (hholds : db.Holds c) (hsound : c.IsSound)
    {ids : Except StoreError (List Cell)} {cells : List Cell}
    (hids : ids = .ok cells) (selected : OccurrenceRecord → Bool)
    (h : ∀ o, cells.any (Cell.same (.integer o.id)) = selected o) :
    ∃ os, db.occurrencesWithIds ids = ⟨os, none⟩ ∧ c.Yields (c.occurrences.filter selected) os := by
  obtain ⟨_, _, hrows⟩ := occurrenceRows_eq hholds hsound
  unfold Database.occurrencesWithIds
  rw [hrows, hids]
  apply occurrencesWhere_eq hholds hsound
  intro o _ s _ _
  rw [Bool.true_and]
  exact (h o).symm

theorem values_eq {α : Type} {row : α → Row} {records : List α} (name : TableName)
    (h : (db.table? name).map Table.rows = some (records.map row)) (place : Nat)
    (condition : Row → Bool) :
    db.values name place condition
      = .ok ((records.filter fun a => condition (row a)).map fun a => (row a).cell place) := by
  obtain ⟨t, ht, hrows⟩ := require_eq name h
  unfold Database.values
  rw [ht]
  simp only [bind, Except.bind, pure, Except.pure, hrows]
  rw [List.filter_map, List.map_map]
  rfl

/-- The occurrences with an id in a column, in rows of another table that meet a condition. -/
theorem occurrencesWithValues_eq {α : Type} {row : α → Row} {records : List α}
    (hholds : db.Holds c) (hsound : c.IsSound) (name : TableName)
    (hrows : (db.table? name).map Table.rows = some (records.map row)) (place : Nat)
    (key : α → Int64) (hkey : ∀ a, (row a).cell place = .integer (key a))
    (condition : Row → Bool) (selected : OccurrenceRecord → Bool)
    (h : ∀ o, selected o = records.any fun a => key a == o.id && condition (row a)) :
    ∃ os, db.occurrencesWithIds (db.values name place condition) = ⟨os, none⟩ ∧
      c.Yields (c.occurrences.filter selected) os := by
  apply occurrencesWithIds_eq hholds hsound (values_eq name hrows place condition)
  intro o
  rw [h, List.any_map, List.any_filter]
  apply congrArg records.any
  funext a
  rw [Function.comp_apply, hkey, Bool.and_comm, BEq.comm (a := key a)]
  rfl

/-- What a list from the database has to contain. -/
def listedIn (db : Database) : Listing → Outcome
  | .occurrencesOf usr roles => db.occurrencesOf usr roles
  | .relatedTo usr roles => db.occurrencesRelatedTo usr roles
  | .unitTests => db.unitTestOccurrences
  | .unitTestsFor paths => db.unitTestOccurrencesOf paths

theorem any_isText (u : UnitTestRecord) (paths : List String) :
    paths.any (u.row.isText UnitTestColumn.mainFile ·) = paths.contains u.mainFile := by
  rw [List.contains_eq_any_beq]
  rfl

theorem listedIn_eq (hholds : db.Holds c) (hsound : c.IsSound) (l : Listing)
    (hvariables : ∀ paths, l = .unitTestsFor paths → paths.length ≤ maxVariables) :
    ∃ os, listedIn db l = ⟨os, none⟩ ∧ c.Yields (c.occurrences.filter (c.lists · l)) os := by
  cases l with
  | occurrencesOf usr roles => exact visitedIn_eq hholds hsound (.occurrences usr roles)
  | relatedTo usr roles =>
    apply occurrencesWithValues_eq hholds hsound .relations hholds.relations _
      RelationRecord.occurrence fun r => rfl
    intro o
    apply congrArg c.relations.any
    funext r
    rw [← rolesMeet_rolesToStored]
    rfl
  | unitTests =>
    apply occurrencesWithValues_eq hholds hsound .unitTests hholds.unitTests _
      UnitTestRecord.occurrence fun u => rfl
    intro o
    simp only [Contents.lists, Bool.and_true]
  | unitTestsFor paths =>
    have hcount := hvariables paths rfl
    have htable := occurrencesWithValues_eq hholds hsound .unitTests hholds.unitTests
      UnitTestColumn.occurrence UnitTestRecord.occurrence (fun u => rfl)
      (fun r => paths.any (r.isText UnitTestColumn.mainFile ·))
      (c.lists · (.unitTestsFor paths)) (by simp only [Contents.lists, any_isText, implies_true])
    dsimp only [listedIn, Database.unitTestOccurrencesOf]
    by_cases hempty : paths = []
    . have hnone : c.occurrences.filter (c.lists · (.unitTestsFor paths)) = [] := by
        simp [hempty, Contents.lists]
      rw [hnone, hempty]
      exact ⟨[], rfl, .nil, by simp, .nil⟩
    . rw [if_neg (by simpa using hempty), if_neg (by omega)]
      exact htable

/-! ### Symbols -/

theorem firstByKey_row (pairs : List (OccurrenceRecord × SymbolRecord)) :
    firstByKey (Row.cell · SymbolColumn.usr) (pairs.map (·.2.row))
      = (firstByKey (·.2.usr) pairs).map (·.2.row) := by
  rw [firstByKey_map]
  apply congrArg
  apply firstByKey_congr
  intro p q
  exact ⟨Cell.text.inj, congrArg Cell.text⟩

/-- The joined occurrences at a path, each the first one of its symbol. -/
def firstsAt (path : String) (pairs : List (OccurrenceRecord × SymbolRecord)) :
    List (OccurrenceRecord × SymbolRecord) :=
  firstByKey (·.2.usr) (pairs.filter (·.1.path == path))

theorem symbolsAt_eq (hholds : db.Holds c) (hsound : c.IsSound) (path : String) :
    ∃ pairs, Joined c OccurrenceRecord.usr c.occurrences pairs ∧
      db.symbolsAt path = .ok ((firstsAt path pairs).map (·.2.symbol)) := by
  obtain ⟨pairs, hpairs, hrows⟩ := occurrenceRows_eq hholds hsound
  refine ⟨pairs, hpairs, ?_⟩
  unfold Database.symbolsAt
  rw [hrows]
  simp only [bind, Except.bind]
  rw [List.filter_map, List.map_map]
  change (firstByKey (Row.cell · SymbolColumn.usr)
    ((pairs.filter (·.1.path == path)).map (·.2.row))).mapM readSymbol = _
  rw [firstByKey_row, List.mapM_map]
  exact mapM_eq_ok _ fun p _ => readSymbol_row p.2

theorem occurAt_firstsAt {pairs : List (OccurrenceRecord × SymbolRecord)}
    (hpairs : Joined c OccurrenceRecord.usr c.occurrences pairs) (hsound : c.IsSound)
    (path : String) : c.OccurAt path ((firstsAt path pairs).map Prod.snd) := by
  have hthere (o : OccurrenceRecord) (ho : o ∈ c.occurrences) (hpath : o.path = path) :
      ∃ p ∈ pairs.filter (·.1.path == path), p.1 = o ∧ p.2.usr = o.usr := by
    rw [← hpairs.records, List.mem_map] at ho
    obtain ⟨p, hp, rfl⟩ := ho
    exact ⟨p, List.mem_filter.mpr ⟨hp, beq_iff_eq.mpr hpath⟩, rfl, (hpairs.symbols p hp).2⟩
  have hfirst (p : OccurrenceRecord × SymbolRecord) (hp : p ∈ firstsAt path pairs) :
      p.1 ∈ c.occurrences ∧ p.1.path = path ∧ p.1.usr = p.2.usr ∧ p.2 ∈ c.symbols := by
    obtain ⟨hmem, hpath⟩ := List.mem_filter.mp (mem_of_mem_firstByKey hp)
    obtain ⟨hsymbol, husr⟩ := hpairs.symbols p hmem
    rw [← hpairs.records]
    exact ⟨List.mem_map_of_mem hmem, eq_of_beq hpath, husr.symm, hsymbol⟩
  have hascending : (pairs.filter (·.1.path == path)).Pairwise fun p q => p.1.id < q.1.id := by
    have hoccurrences := hsound.occurrences
    rw [← hpairs.records, List.pairwise_map] at hoccurrences
    exact hoccurrences.filter _
  refine ⟨?_, ?_, ?_⟩
  . intro s
    rw [List.mem_map]
    constructor
    . rintro ⟨p, hp, rfl⟩
      obtain ⟨ho, hpath, husr, hs⟩ := hfirst p hp
      exact ⟨hs, p.1, ho, hpath, husr⟩
    . rintro ⟨hs, o, ho, hpath, husr⟩
      obtain ⟨p, hp, rfl, hown⟩ := hthere o ho hpath
      obtain ⟨q, hq, hkey⟩ : ∃ q ∈ firstsAt path pairs, q.2.usr = p.2.usr :=
        exists_mem_firstByKey hp
      refine ⟨q, hq, ?_⟩
      apply List.inj_on_of_nodup_map hsound.symbols (hfirst q hq).2.2.2 hs
      rw [hkey, hown, husr]
  . rw [List.map_map]
    exact nodup_firstByKey
  . rw [List.pairwise_map]
    apply (pairwise_firstByKey hascending).imp_of_mem
    intro p q hp _ hbefore
    obtain ⟨ho, hpath, husr, _⟩ := hfirst p hp
    refine ⟨p.1, ho, hpath, husr, ?_⟩
    intro o' ho' hpath' husr'
    obtain ⟨p', hp', rfl, hown⟩ := hthere o' ho' hpath'
    exact hbefore p' hp' (hown.trans husr')

/-! ### The index -/

theorem visit_visits {τ : Type} (visitor : Occurrence → τ → Flow × τ) (os : List Occurrence)
    (t : τ) :
    Visits visitor os t (Scan.visit visitor os t).1 (Scan.visit visitor os t).2 := by
  induction os generalizing t with
  | nil => exact .ended .nil
  | cons o rest ih =>
    rw [Scan.visit]
    rcases hvisit : visitor o t with ⟨flow, t'⟩
    cases flow with
    | stop => exact .stopped rfl .nil hvisit
    | proceed =>
      have hrest := ih t'
      dsimp only
      generalize Scan.visit visitor rest t' = result at hrest ⊢
      rcases result with ⟨flow, t''⟩
      cases hrest with
      | ended hshown => exact .ended (.cons hvisit hshown)
      | stopped hos hshown hstop =>
        subst hos
        exact .stopped rfl (.cons hvisit hshown) hstop

theorem answers_askIndex {α : Type} {call : Call} {question : σ → Reply α × σ} {w : World σ} {a : α}
    (h : question w.state = (⟨a, []⟩, w.state)) :
    Answers (World.askIndex call question) w call a := by
  unfold Answers World.askIndex World.ask
  simp only [bind, StateT.bind, h]
  rfl

theorem answers_each {call : Call} {question : σ → Scan × σ} {w : World σ} {os : List Occurrence}
    (h : question w.state = (⟨os, []⟩, w.state)) {τ : Type} (visitor : Occurrence → τ → Flow × τ)
    (t : τ) :
    Answers (World.ask call question >>= fun scan => scan.each visitor t) w call
      (Scan.visit visitor os t) := by
  rw [Answers, Scan.ask_each_eq, h]
  simp

namespace StoredIndex

variable {i : StoredIndex} {database : σ → Database} {w : World σ} {os : List Occurrence}

theorem scan_eq (hconnect : i.canConnect = true) (query : StoredQuery) :
    i.scan query ⟨os, none⟩ = ⟨os, []⟩ := by
  unfold scan
  rw [if_pos hconnect]
  rfl

theorem reply_eq {α : Type} (hconnect : i.canConnect = true) (query : StoredQuery)
    (fallback a : α) : i.reply query fallback (.ok a) = ⟨a, []⟩ := by
  unfold reply
  rw [if_pos hconnect]

/-- All enumerations are one, but for the question and the name of the query. -/
theorem eachOf_toRawIndex {τ : Type} (i : StoredIndex) (database : σ → Database) (e : Enumeration)
    (visitor : Occurrence → τ → Flow × τ) (t : τ) :
    e.eachOf (i.toRawIndex database) visitor t
      = World.ask e.call (fun s => (i.scan e.query (visitedIn (database s) e), s))
        >>= fun scan => scan.each visitor t := by
  cases e <;> rfl

theorem answers_eachOf {τ : Type} (hconnect : i.canConnect = true) (e : Enumeration)
    (hos : visitedIn (database w.state) e = ⟨os, none⟩) (visitor : Occurrence → τ → Flow × τ)
    (t : τ) :
    Answers (e.eachOf (i.toRawIndex database) visitor t) w e.call (Scan.visit visitor os t) := by
  rw [eachOf_toRawIndex]
  apply answers_each
  rw [hos, scan_eq hconnect]

theorem answers_found (hconnect : i.canConnect = true) (l : Listing)
    (hos : listedIn (database w.state) l = ⟨os, none⟩) :
    Answers (l.found (i.toRawIndex database)) w l.call os := by
  have hreply (query : StoredQuery) :
      (i.reply query [] (complete (listedIn (database w.state) l)), w.state)
        = (⟨os, []⟩, w.state) := by
    rw [hos]
    exact congrArg (·, w.state) (reply_eq hconnect query [] os)
  cases l with
  | occurrencesOf usr roles =>
    have heach : (i.toRawIndex database).eachOccurrence usr roles RawIndex.collect [] w
        = ((.proceed, os.reverse),
          { w with trace := .call (.occurrences usr roles) :: w.trace }) := by
      have h := answers_eachOf hconnect (.occurrences usr roles) hos RawIndex.collect []
      rw [View.visit_collect, List.append_nil] at h
      exact h
    dsimp only [Answers, Listing.found, RawIndex.occurrencesOf, bind, StateT.bind]
    rw [heach]
    dsimp only
    rw [List.reverse_reverse]
    rfl
  | relatedTo usr roles => exact answers_askIndex (hreply .related)
  | unitTests => exact answers_askIndex (hreply .unitTests)
  | unitTestsFor paths =>
    apply answers_askIndex
    dsimp only [toRawIndex, unitTestsReply]
    by_cases hempty : paths.isEmpty = true
    . dsimp only [listedIn, Database.unitTestOccurrencesOf] at hos
      rw [if_pos hempty] at hos ⊢
      cases hos
      rfl
    . rw [if_neg hempty]
      exact hreply .unitTestsOf

theorem answers_symbolsIn {symbols : List Symbol} (hconnect : i.canConnect = true) (path : String)
    (hsymbols : (database w.state).symbolsAt path = .ok symbols) :
    Answers ((i.toRawIndex database).symbolsIn path) w (.symbols path) symbols := by
  apply answers_askIndex
  dsimp only [toRawIndex]
  rw [hsymbols, reply_eq hconnect]

/--
The index of a sound database answers what its records say: the occurrences that meet a condition,
each once and in order, and the symbols at a path. Nothing fails, so that nothing is logged.
-/
theorem answers_of_holds (i : StoredIndex) (database : σ → Database) (w : World σ) (c : Contents)
    (hconnect : i.canConnect = true) (hholds : (database w.state).Holds c) (hsound : c.IsSound) :
    (∀ e : Enumeration, ∃ os, c.Yields (c.occurrences.filter (c.visits · e)) os ∧
      ∀ {τ : Type} (visitor : Occurrence → τ → Flow × τ) (t : τ), ∃ flow t',
        Visits visitor os t flow t' ∧
          Answers (e.eachOf (i.toRawIndex database) visitor t) w e.call (flow, t')) ∧
    (∀ l : Listing, (∀ paths, l = .unitTestsFor paths → paths.length ≤ maxVariables) →
      ∃ os, c.Yields (c.occurrences.filter (c.lists · l)) os ∧
        Answers (l.found (i.toRawIndex database)) w l.call os) ∧
    ∀ path, ∃ records, c.OccurAt path records ∧
      Answers ((i.toRawIndex database).symbolsIn path) w (.symbols path)
        (records.map SymbolRecord.symbol) := by
  refine ⟨?_, ?_, ?_⟩
  . intro e
    obtain ⟨os, hos, hyields⟩ := visitedIn_eq hholds hsound e
    refine ⟨os, hyields, ?_⟩
    intro τ visitor t
    exact ⟨_, _, visit_visits visitor os t, answers_eachOf hconnect e hos visitor t⟩
  . intro l hvariables
    obtain ⟨os, hos, hyields⟩ := listedIn_eq hholds hsound l hvariables
    exact ⟨os, hyields, answers_found hconnect l hos⟩
  . intro path
    obtain ⟨pairs, hpairs, hsymbols⟩ := symbolsAt_eq hholds hsound path
    refine ⟨_, occurAt_firstsAt hpairs hsound path, answers_symbolsIn hconnect path ?_⟩
    rw [hsymbols, List.map_map]
    rfl

theorem answers_sample :
    let i : StoredIndex := ⟨.ofText "/index", 5000⟩
    let c : Contents := .sample
    let l : Listing := .relatedTo "s:A" ⟨0x8000000000000000⟩
    i.canConnect = true ∧ c.database.Holds c ∧ c.IsSound ∧
      (c.occurrences.filter (c.lists · l)).map OccurrenceRecord.id = [2] ∧
      ∃ os, c.Yields (c.occurrences.filter (c.lists · l)) os ∧
        Answers (l.found (i.toRawIndex id)) ⟨c.database, []⟩ l.call os := by
  refine ⟨by decide, Contents.holds_database _, Contents.isSound_sample, by decide, ?_⟩
  obtain ⟨_, hlists, _⟩ := answers_of_holds ⟨.ofText "/index", 5000⟩ id
    ⟨Contents.sample.database, []⟩ .sample (by decide) (Contents.holds_database _)
    Contents.isSound_sample
  exact hlists (.relatedTo "s:A" ⟨0x8000000000000000⟩) (by simp)

end StoredIndex

end FreshIndex.Store
