import FreshIndex.Proofs.Scene.Checker

/-!
This module contains the proof that the queries of a view find what the scene shows. None of them
changes what the view remembers of containers.
-/

namespace FreshIndex

variable {σ τ α : Type} {ds es : List Diagnostic}

/-- What a view keeps besides its checker. -/
structure Memory where
  containerNames : Memo String (List String)
  resolvingContainers : List String
  resolvingAccessors : List String

namespace View

def memory (v : View σ) : Memory where
  containerNames := v.containerNames
  resolvingContainers := v.resolvingContainers
  resolvingAccessors := v.resolvingAccessors

/-- The view looks at the scene, keeps `μ`, and so far `ds` was reported. -/
structure Within (S : Scene) (μ : Memory) (ds : List Diagnostic) (v : View σ) : Prop where
  checking : v.toChecking.Within S ds
  memory : v.memory = μ

variable {S : Scene} {μ : Memory}

theorem within_ofLevel (S : Scene) (s : σ) :
    Within S ⟨.empty, [], []⟩ [] (ofLevel S.level ⟨s, []⟩) where
  checking := ⟨rfl, Checker.accurate_ofLevel _ _, rfl⟩
  memory := rfl

theorem leads_inChecker {act : StateM (Checking σ) α} {a : α}
    (h : Leads (Checking.Within S ds) act a (Checking.Within S es)) :
    Leads (Within S μ ds) (inChecker act) a (Within S μ es) := by
  intro v hv
  obtain ⟨h1, h2⟩ := h v.toChecking hv.checking
  exact ⟨h1, h2, hv.memory⟩

theorem leads_inWorld {act : StateM (World σ) α} {a : α}
    (h : Leads (World.Told ds) act a (World.Told es)) :
    Leads (Within S μ ds) (inWorld act) a (Within S μ es) := by
  unfold inWorld
  apply leads_inChecker
  apply Checking.leads_inWorld h

theorem leads_report (d : Diagnostic) :
    Leads (Within (σ := σ) S μ ds) (inWorld (World.report d)) () (Within S μ (ds ++ [d])) := by
  apply leads_inWorld
  apply World.leads_report

theorem leads_isFresh (S : Scene) (o : Occurrence) :
    Leads (Within (σ := σ) S μ ds) (inChecker (Checker.isFresh S.host o.location)) (S.isFresh o)
      (Within S μ (ds ++ S.faults o)) := by
  apply leads_inChecker
  apply Checker.leads_isFresh

theorem retainFresh_congr {g g' : Gate σ} (h : g.host = g'.host) (os : List Occurrence) :
    retainFresh g os = retainFresh g' os := by
  induction os with
  | nil => rfl
  | cons o rest ih => rw [retainFresh, retainFresh, h, ih]

theorem leads_retainFresh (S : Scene) (os : List Occurrence) :
    Leads (Within (σ := σ) S μ ds) (retainFresh S.gate os) (S.fresh os)
      (Within S μ (ds ++ S.faultsIn os)) := by
  induction os generalizing ds with
  | nil =>
    simp only [Scene.faultsIn, List.flatMap_nil, List.append_nil]
    exact Leads.pure
  | cons o rest ih =>
    simp only [Scene.faultsIn, List.flatMap_cons, ← List.append_assoc]
    apply Leads.bind (leads_isFresh S o)
    apply Leads.bind ih
    cases h : S.isFresh o with
    | true =>
      simp only [Scene.fresh, List.filter_cons_of_pos h]
      exact Leads.pure
    | false =>
      simp only [Scene.fresh, List.filter_cons, h]
      exact Leads.pure

theorem leads_visitFresh (S : Scene) (visitor : Occurrence → τ → Flow × τ) (os : List Occurrence)
    (t : τ) :
    Leads (Within (σ := σ) S μ ds) (visitFresh S.gate visitor os t) (S.visit visitor os t).1
      (Within S μ (ds ++ (S.visit visitor os t).2)) := by
  induction os generalizing ds t with
  | nil =>
    simp only [Scene.visit, List.append_nil]
    exact Leads.pure
  | cons o rest ih =>
    unfold visitFresh
    apply Leads.bind (leads_isFresh S o)
    cases h : S.isFresh o with
    | true =>
      simp only [Scene.visit, h, if_true]
      cases hv : visitor o t with
      | mk flow t' =>
        cases flow with
        | stop => exact Leads.pure
        | proceed =>
          simp only [← List.append_assoc]
          exact ih t'
    | false =>
      simp only [Scene.visit, h, Bool.false_eq_true, if_false]
      rw [S.faults_eq_nil_of_stale o h, List.append_nil]
      exact ih t

theorem leads_eachFresh (S : Scene) (visitor : Occurrence → τ → Flow × τ) (os : List Occurrence)
    (t : τ) :
    Leads (Within (σ := σ) S μ ds) (eachFresh S.gate ⟨os, []⟩ visitor t)
      (S.visit visitor os t).1 (Within S μ (ds ++ (S.visit visitor os t).2)) := by
  unfold eachFresh
  apply Leads.bind (leads_visitFresh S visitor os t)
  cases (S.visit visitor os t).1 with
  | mk flow t' =>
    cases flow with
    | stop => exact Leads.pure
    | proceed =>
      simp only [if_true]
      apply Leads.bind (leads_inWorld (a := ()) Leads.pure)
      exact Leads.pure

theorem leads_eachOccurrence (S : Scene) (usr : String) (roles : Roles)
    (visitor : Occurrence → τ → Flow × τ) (t : τ) :
    Leads (Within (σ := σ) S μ ds) (eachOccurrence S.gate usr roles visitor t)
      (S.visit visitor (S.listedOf usr roles) t).1
      (Within S μ (ds ++ (S.visit visitor (S.listedOf usr roles) t).2)) := by
  unfold eachOccurrence
  refine Leads.bind (leads_inWorld (World.leads_ask
    (a := ⟨S.listedOf usr roles, []⟩) fun _ => rfl)) ?_
  apply leads_eachFresh

theorem leads_eachContaining (S : Scene) (pattern : String) (options : PatternOptions)
    (visitor : Occurrence → τ → Flow × τ) (t : τ) :
    Leads (Within (σ := σ) S μ ds) (eachContaining S.gate pattern options visitor t)
      (S.visit visitor (S.listedContaining pattern options) t).1
      (Within S μ (ds ++ (S.visit visitor (S.listedContaining pattern options) t).2)) := by
  unfold eachContaining
  refine Leads.bind (leads_inWorld (World.leads_ask
    (a := ⟨S.listedContaining pattern options, []⟩) fun _ => rfl)) ?_
  apply leads_eachFresh

theorem leads_eachNamed (S : Scene) (name : String) (visitor : Occurrence → τ → Flow × τ) (t : τ) :
    Leads (Within (σ := σ) S μ ds) (eachNamed S.gate name visitor t)
      (S.visit visitor (S.listedNamed name) t).1
      (Within S μ (ds ++ (S.visit visitor (S.listedNamed name) t).2)) := by
  unfold eachNamed
  refine Leads.bind (leads_inWorld (World.leads_ask
    (a := ⟨S.listedNamed name, []⟩) fun _ => rfl)) ?_
  apply leads_eachFresh

theorem visit_collect (os seen : List Occurrence) :
    Scan.visit RawIndex.collect os seen = (.proceed, os.reverse ++ seen) := by
  induction os generalizing seen with
  | nil => rfl
  | cons o rest ih =>
    rw [Scan.visit]
    simp only [RawIndex.collect]
    rw [ih]
    simp

theorem leads_rawOccurrencesOf (S : Scene) (usr : String) (roles : Roles) :
    Leads (World.Told (σ := σ) ds) (S.index.occurrencesOf usr roles) (S.listedOf usr roles)
      (World.Told ds) := by
  unfold RawIndex.occurrencesOf RawIndex.eachOccurrence
  apply Leads.bind (a := (.proceed, (S.listedOf usr roles).reverse)) (Q := World.Told ds)
  . refine Leads.bind (World.leads_ask (a := ⟨S.listedOf usr roles, []⟩) fun _ => rfl) ?_
    unfold Scan.each
    rw [visit_collect]
    simp only [if_true, List.append_nil]
    apply Leads.bind (a := ()) (Q := World.Told ds) Leads.pure
    exact Leads.pure
  . simp only [List.reverse_reverse]
    exact Leads.pure

theorem leads_occurrencesOf (S : Scene) (usr : String) (roles : Roles) :
    Leads (Within (σ := σ) S μ ds) (occurrencesOf S.gate usr roles) (S.occurrencesOf usr roles)
      (Within S μ (ds ++ S.faultsIn (S.occurrencesOf usr roles))) := by
  unfold occurrencesOf
  apply Leads.bind (leads_inWorld (leads_rawOccurrencesOf S usr roles))
  rw [Scene.occurrencesOf, S.faultsIn_fresh]
  apply leads_retainFresh

theorem leads_relatedTo (S : Scene) (usr : String) (roles : Roles) :
    Leads (Within (σ := σ) S μ ds) (relatedTo S.gate usr roles) (S.relatedTo usr roles)
      (Within S μ (ds ++ S.faultsIn (S.relatedTo usr roles))) := by
  unfold relatedTo
  refine Leads.bind (leads_inWorld (World.leads_askIndex
    (a := S.lists.occurrences.filter (ListedIndex.isRelatedTo usr roles)) fun _ => rfl)) ?_
  rw [Scene.relatedTo, S.faultsIn_fresh]
  apply leads_retainFresh

theorem leads_unitTests (S : Scene) :
    Leads (Within (σ := σ) S μ ds) (unitTests S.gate) S.unitTests
      (Within S μ (ds ++ S.faultsIn S.unitTests)) := by
  unfold unitTests
  refine Leads.bind (leads_inWorld (World.leads_askIndex
    (a := S.lists.unitTests.map (·.1)) fun _ => rfl)) ?_
  rw [Scene.unitTests, S.faultsIn_fresh]
  apply leads_retainFresh

theorem leads_unitTestsFor (S : Scene) (paths : List String) :
    Leads (Within (σ := σ) S μ ds) (unitTestsFor S.gate paths) (S.unitTestsFor paths)
      (Within S μ (ds ++ S.faultsIn (S.unitTestsFor paths))) := by
  unfold unitTestsFor
  refine Leads.bind (leads_inWorld (World.leads_askIndex
    (a := (S.lists.unitTests.filter (paths.contains ·.2)).map (·.1)) fun _ => rfl)) ?_
  rw [Scene.unitTestsFor, S.faultsIn_fresh]
  apply leads_retainFresh

theorem leads_definitionsOrDeclarations (S : Scene) (usr : String) :
    Leads (Within (σ := σ) S μ ds) (definitionsOrDeclarations S.gate usr)
      (S.definitionsOrDeclarations usr)
      (Within S μ (ds ++ S.faultsIn (S.definitionsOrDeclarations usr))) := by
  unfold definitionsOrDeclarations Scene.definitionsOrDeclarations
  apply Leads.bind (leads_occurrencesOf S usr Role.definition)
  cases hempty : (S.occurrencesOf usr Role.definition).isEmpty with
  | true =>
    rw [List.isEmpty_iff.mp hempty]
    simp only [List.isEmpty_nil, if_true, Scene.faultsIn, List.flatMap_nil, List.append_nil]
    apply leads_occurrencesOf
  | false =>
    simp only [hempty, Bool.false_eq_true, if_false]
    exact Leads.pure

theorem leads_primaryDefinition (S : Scene) (usr : String) :
    Leads (Within (σ := σ) S μ ds) (primaryDefinition S.gate usr) (S.primaryDefinition usr)
      (Within S μ (ds ++ S.primaryReports usr)) := by
  unfold primaryDefinition Scene.primaryReports
  rw [← List.append_assoc]
  apply Leads.bind (leads_definitionsOrDeclarations S usr)
  dsimp only
  rw [← Scene.primaryDefinition]
  cases S.primaryDefinition usr with
  | none =>
    simp only [Option.isNone_none, if_true]
    apply Leads.bind (leads_report _)
    exact Leads.pure
  | some d =>
    simp only [Option.isNone_some, Bool.false_eq_true, if_false, List.append_nil]
    exact Leads.pure

theorem leads_hasFreshUnit (S : Scene) (uri : DocumentUri) (mainFile : Option DocumentUri) :
    Leads (Within (σ := σ) S μ ds) (hasFreshUnit S.gate uri mainFile) (S.judgeUnit uri mainFile).1
      (Within S μ (ds ++ (S.judgeUnit uri mainFile).2)) := by
  apply leads_inChecker
  apply Checker.leads_hasFreshUnit

theorem leads_symbolsIn (S : Scene) (path : String) :
    Leads (Within (σ := σ) S μ ds) (symbolsIn S.gate path)
      (if (S.judgeUnit (.ofPathText path) none).1 then S.lists.symbolsIn path else [])
      (Within S μ (ds ++ (S.judgeUnit (.ofPathText path) none).2)) := by
  unfold symbolsIn
  apply Leads.bind (leads_hasFreshUnit S (.ofPathText path) none)
  split
  . exact leads_inWorld (World.leads_askIndex fun _ => rfl)
  . exact Leads.pure

theorem leads_retainBuilt (S : Scene) (files : List DocumentUri) :
    Leads (Within (σ := σ) S μ ds) (retainBuilt S.gate files)
      (files.filter fun file => (S.judgeUnit file none).1)
      (Within S μ (ds ++ files.flatMap fun file => (S.judgeUnit file none).2)) := by
  induction files generalizing ds with
  | nil =>
    simp only [List.flatMap_nil, List.append_nil]
    exact Leads.pure
  | cons file rest ih =>
    simp only [List.flatMap_cons, ← List.append_assoc]
    apply Leads.bind (leads_hasFreshUnit S file none)
    apply Leads.bind ih
    cases h : (S.judgeUnit file none).1 with
    | true =>
      simp only [List.filter_cons, h]
      exact Leads.pure
    | false =>
      simp only [List.filter_cons, h]
      exact Leads.pure

theorem leads_mainFilesOf (S : Scene) (uri : DocumentUri) (crossLanguage : Bool) :
    Leads (Within (σ := σ) S μ ds) (mainFilesOf S.gate uri crossLanguage)
      (((S.lists.mainFilesOf uri.pseudoPath crossLanguage).map DocumentUri.ofPathText).filter
        fun file => (S.judgeUnit file none).1)
      (Within S μ (ds ++
        ((S.lists.mainFilesOf uri.pseudoPath crossLanguage).map DocumentUri.ofPathText).flatMap
          fun file => (S.judgeUnit file none).2)) := by
  unfold mainFilesOf
  refine Leads.bind (leads_inWorld (World.leads_askIndex
    (a := S.lists.mainFilesOf uri.pseudoPath crossLanguage) fun _ => rfl)) ?_
  apply leads_retainBuilt

theorem leads_fileHasUnsavedEdits (S : Scene) (uri : DocumentUri) :
    Leads (Within (σ := σ) S μ ds) (fileHasUnsavedEdits S.gate uri) (S.judgeEdits uri).1
      (Within S μ (ds ++ (S.judgeEdits uri).2)) := by
  apply leads_inChecker
  apply Checker.leads_fileHasUnsavedEdits

end View

end FreshIndex
