import FreshIndex.Proofs.Scene.Containers

/-!
This module contains the queries to a view as data, so that whole sessions can be spoken of, and the
proof that a session over a scene is answered from the scene and from what the view keeps.
-/

namespace FreshIndex

variable {σ τ : Type}

/-- A query about occurrences; a visitor has a state of type `τ`. -/
inductive OccurrenceQuery (τ : Type)
  | occurrencesOf (usr : String) (roles : Roles)
  | relatedTo (usr : String) (roles : Roles)
  | eachOccurrence (usr : String) (roles : Roles) (visitor : Occurrence → τ → Flow × τ) (t : τ)
  | eachContaining (pattern : String) (options : PatternOptions)
    (visitor : Occurrence → τ → Flow × τ) (t : τ)
  | eachNamed (name : String) (visitor : Occurrence → τ → Flow × τ) (t : τ)
  | unitTests
  | unitTestsFor (paths : List String)
  | definitionsOrDeclarations (usr : String)
  | primaryDefinition (usr : String)
  | containersOf (o : Occurrence)

inductive FileQuery
  | symbolsIn (path : String)
  | mainFilesOf (uri : DocumentUri) (crossLanguage : Bool)
  | hasFreshUnit (uri : DocumentUri) (mainFile : Option DocumentUri)
  | fileHasUnsavedEdits (uri : DocumentUri)

inductive Query (τ : Type)
  | ofOccurrences (query : OccurrenceQuery τ)
  | ofFiles (query : FileQuery)

inductive Answer (τ : Type)
  | occurrences (os : List Occurrence)
  | visit (flow : Flow) (t : τ)
  | occurrence (o : Option Occurrence)
  | names (names : List String)
  | symbols (symbols : List Symbol)
  | documents (uris : List DocumentUri)
  | verdict (isSo : Bool)

def OccurrenceQuery.run (g : Gate σ) : OccurrenceQuery τ → StateM (View σ) (Answer τ)
  | occurrencesOf usr roles => return .occurrences (← View.occurrencesOf g usr roles)
  | relatedTo usr roles => return .occurrences (← View.relatedTo g usr roles)
  | eachOccurrence usr roles visitor t => do
    let (flow, t) ← View.eachOccurrence g usr roles visitor t
    return .visit flow t
  | eachContaining pattern options visitor t => do
    let (flow, t) ← View.eachContaining g pattern options visitor t
    return .visit flow t
  | eachNamed name visitor t => do
    let (flow, t) ← View.eachNamed g name visitor t
    return .visit flow t
  | unitTests => return .occurrences (← View.unitTests g)
  | unitTestsFor paths => return .occurrences (← View.unitTestsFor g paths)
  | definitionsOrDeclarations usr => return .occurrences (← View.definitionsOrDeclarations g usr)
  | primaryDefinition usr => return .occurrence (← View.primaryDefinition g usr)
  | containersOf o => return .names (← View.containersOf g o)

def FileQuery.run (g : Gate σ) : FileQuery → StateM (View σ) (Answer τ)
  | symbolsIn path => return .symbols (← View.symbolsIn g path)
  | mainFilesOf uri crossLanguage => return .documents (← View.mainFilesOf g uri crossLanguage)
  | hasFreshUnit uri mainFile => return .verdict (← View.hasFreshUnit g uri mainFile)
  | fileHasUnsavedEdits uri => return .verdict (← View.fileHasUnsavedEdits g uri)

def Query.run (g : Gate σ) : Query τ → StateM (View σ) (Answer τ)
  | ofOccurrences query => query.run g
  | ofFiles query => query.run g

namespace View

/-- The answers to queries in turn, each with what is reported while it is found. -/
def replies (g : Gate σ) : List (Query τ) → View σ → List (Answer τ × List Diagnostic)
  | [], _ => []
  | query :: rest, v =>
    let (answer, v') := query.run g v
    (answer, v'.world.diagnostics.drop v.world.diagnostics.length) :: replies g rest v'

def after (g : Gate σ) (queries : List (Query τ)) (v : View σ) : View σ :=
  queries.foldl (fun v query => (query.run g v).2) v

end View

namespace Scene

def answerOccurrences (S : Scene) (μ : Memory) :
    OccurrenceQuery τ → Answer τ × Memory × List Diagnostic
  | .occurrencesOf usr roles =>
    (.occurrences (S.occurrencesOf usr roles), μ, S.faultsIn (S.occurrencesOf usr roles))
  | .relatedTo usr roles =>
    (.occurrences (S.relatedTo usr roles), μ, S.faultsIn (S.relatedTo usr roles))
  | .eachOccurrence usr roles visitor t =>
    let ((flow, t), reported) := S.visit visitor (S.listedOf usr roles) t
    (.visit flow t, μ, reported)
  | .eachContaining pattern options visitor t =>
    let ((flow, t), reported) := S.visit visitor (S.listedContaining pattern options) t
    (.visit flow t, μ, reported)
  | .eachNamed name visitor t =>
    let ((flow, t), reported) := S.visit visitor (S.listedNamed name) t
    (.visit flow t, μ, reported)
  | .unitTests => (.occurrences S.unitTests, μ, S.faultsIn S.unitTests)
  | .unitTestsFor paths =>
    (.occurrences (S.unitTestsFor paths), μ, S.faultsIn (S.unitTestsFor paths))
  | .definitionsOrDeclarations usr =>
    (.occurrences (S.definitionsOrDeclarations usr), μ,
      S.faultsIn (S.definitionsOrDeclarations usr))
  | .primaryDefinition usr => (.occurrence (S.primaryDefinition usr), μ, S.primaryReports usr)
  | .containersOf o =>
    let (names, μ', reported) := S.namesWithin (View.maxDepth + 1) μ o
    (.names names, μ', reported)

def answerFiles (S : Scene) : FileQuery → Answer τ × List Diagnostic
  | .symbolsIn path =>
    let (isBuilt, reported) := S.judgeUnit (.ofPathText path) none
    (.symbols (if isBuilt then S.lists.symbolsIn path else []), reported)
  | .mainFilesOf uri crossLanguage =>
    let files := (S.lists.mainFilesOf uri.pseudoPath crossLanguage).map DocumentUri.ofPathText
    (.documents (files.filter fun file => (S.judgeUnit file none).1),
      files.flatMap fun file => (S.judgeUnit file none).2)
  | .hasFreshUnit uri mainFile =>
    let (isBuilt, reported) := S.judgeUnit uri mainFile
    (.verdict isBuilt, reported)
  | .fileHasUnsavedEdits uri =>
    let (isEdited, reported) := S.judgeEdits uri
    (.verdict isEdited, reported)

def answer (S : Scene) (μ : Memory) : Query τ → Answer τ × Memory × List Diagnostic
  | .ofOccurrences query => S.answerOccurrences μ query
  | .ofFiles query =>
    let (answer, reported) := S.answerFiles query
    (answer, μ, reported)

def replies (S : Scene) : Memory → List (Query τ) → List (Answer τ × List Diagnostic)
  | _, [] => []
  | μ, query :: rest =>
    let (answer, μ', reported) := S.answer μ query
    (answer, reported) :: replies S μ' rest

def memoryAfter (S : Scene) (μ : Memory) (queries : List (Query τ)) : Memory :=
  queries.foldl (fun μ query => (S.answer μ query).2.1) μ

end Scene

namespace View

variable {S : Scene} {μ : Memory} {ds : List Diagnostic}

theorem leads_runOccurrences (S : Scene) (query : OccurrenceQuery τ) :
    Leads (Within (σ := σ) S μ ds) (query.run S.gate) (S.answerOccurrences μ query).1
      (Within S (S.answerOccurrences μ query).2.1
        (ds ++ (S.answerOccurrences μ query).2.2)) := by
  cases query with
  | occurrencesOf usr roles => exact Leads.bind (leads_occurrencesOf S usr roles) Leads.pure
  | relatedTo usr roles => exact Leads.bind (leads_relatedTo S usr roles) Leads.pure
  | eachOccurrence usr roles visitor t =>
    exact Leads.bind (leads_eachOccurrence S usr roles visitor t) Leads.pure
  | eachContaining pattern options visitor t =>
    exact Leads.bind (leads_eachContaining S pattern options visitor t) Leads.pure
  | eachNamed name visitor t => exact Leads.bind (leads_eachNamed S name visitor t) Leads.pure
  | unitTests => exact Leads.bind (leads_unitTests S) Leads.pure
  | unitTestsFor paths => exact Leads.bind (leads_unitTestsFor S paths) Leads.pure
  | definitionsOrDeclarations usr =>
    exact Leads.bind (leads_definitionsOrDeclarations S usr) Leads.pure
  | primaryDefinition usr => exact Leads.bind (leads_primaryDefinition S usr) Leads.pure
  | containersOf o => exact Leads.bind (leads_containersWithin S (maxDepth + 1) o) Leads.pure

theorem leads_runFiles (S : Scene) (query : FileQuery) :
    Leads (Within (σ := σ) S μ ds) (query.run (τ := τ) S.gate) (S.answerFiles query).1
      (Within S μ (ds ++ (S.answerFiles (τ := τ) query).2)) := by
  cases query with
  | symbolsIn path => exact Leads.bind (leads_symbolsIn S path) Leads.pure
  | mainFilesOf uri crossLanguage =>
    exact Leads.bind (leads_mainFilesOf S uri crossLanguage) Leads.pure
  | hasFreshUnit uri mainFile =>
    exact Leads.bind (leads_hasFreshUnit S uri mainFile) Leads.pure
  | fileHasUnsavedEdits uri => exact Leads.bind (leads_fileHasUnsavedEdits S uri) Leads.pure

theorem leads_run (S : Scene) (query : Query τ) :
    Leads (Within (σ := σ) S μ ds) (query.run S.gate) (S.answer μ query).1
      (Within S (S.answer μ query).2.1 (ds ++ (S.answer μ query).2.2)) := by
  cases query with
  | ofOccurrences query => exact leads_runOccurrences S query
  | ofFiles query => exact leads_runFiles S query

theorem replies_eq {v : View σ} (hv : v.Within S μ ds) (queries : List (Query τ)) :
    replies S.gate queries v = S.replies μ queries := by
  induction queries generalizing v μ ds with
  | nil => rfl
  | cons query rest ih =>
    obtain ⟨hanswer, hafter⟩ := leads_run S query v hv
    have hbefore : v.world.diagnostics = ds := hv.checking.told
    have htold : (query.run S.gate v).2.world.diagnostics = ds ++ (S.answer μ query).2.2 :=
      hafter.checking.told
    calc
      replies S.gate (query :: rest) v
          = ((query.run S.gate v).1,
              (query.run S.gate v).2.world.diagnostics.drop v.world.diagnostics.length)
            :: replies S.gate rest (query.run S.gate v).2 := rfl
      _ = ((S.answer μ query).1, (S.answer μ query).2.2)
            :: S.replies (S.answer μ query).2.1 rest := by
        rw [ih hafter, hanswer, hbefore, htold, List.drop_left]
      _ = S.replies μ (query :: rest) := rfl

theorem within_after {v : View σ} (hv : v.Within S μ ds) (queries : List (Query τ)) :
    ∃ es, (after S.gate queries v).Within S (S.memoryAfter μ queries) es := by
  induction queries generalizing v μ ds with
  | nil => exact ⟨ds, hv⟩
  | cons query rest ih =>
    obtain ⟨_, hafter⟩ := leads_run S query v hv
    exact ih hafter

end View

end FreshIndex
