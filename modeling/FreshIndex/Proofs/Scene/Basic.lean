import FreshIndex.ListedIndex
import FreshIndex.View.Containers

/-!
This module contains what there is to see for a view as long as nothing changes: a level, the
answers of the machine and the lists of the index. Everything that a view can find out is a plain
function of such a scene.
-/

namespace FreshIndex

namespace Snapshot

def fileExists (m : Snapshot) (uri : DocumentUri) : Bool :=
  uri.filePath?.any m.pathExists

def latestInChain (m : Snapshot) (start : FilePath) :
    (hops : Nat) → (current : FilePath) → Except IoError Timestamp
  | hops, current =>
    match m.stat current with
    | .error e => .error e
    | .ok stat =>
      if !stat.isLink then .ok stat.modified
      else
        match hops with
        | 0 => .error (Checker.tooManyLinks start)
        | hops + 1 =>
          match m.readLink current with
          | .error e => .error e
          | .ok target =>
            match latestInChain m start hops (Checker.linkDestination current target) with
            | .error e => .error e
            | .ok later => .ok (max stat.modified later)

def modificationTime (m : Snapshot) (uri : DocumentUri) : Except IoError ModificationTime :=
  match uri.filePath? with
  | none => .ok .fileDoesNotExist
  | some path =>
    match m.latestInChain path Checker.maxHops path with
    | .ok modified => .ok (.date modified)
    | .error e => if e.kind = .notFound then .ok .fileDoesNotExist else .error e

/-- Whether a location is up to date, and what is reported on the way. -/
def judge (m : Snapshot) (level : CheckLevel) (l : Location) : Bool × List Diagnostic :=
  let uri := DocumentUri.ofPathText l.path
  if level = .deletedFiles then (m.fileExists uri, [])
  else if level.asksEditor && m.hasUnsavedEdits uri then (false, [])
  else
    match m.modificationTime uri with
    | .ok .fileDoesNotExist => (false, [])
    | .ok (.date modified) => (decide (modified ≤ l.timestamp), [])
    | .error e => (true, [.locationUndecided l.path e])

end Snapshot

structure Scene where
  level : CheckLevel
  snapshot : Snapshot
  lists : ListedIndex

namespace Scene

variable {σ τ : Type}

def host (S : Scene) : Host σ :=
  .ofSnapshot fun _ => S.snapshot

def index (S : Scene) : RawIndex σ :=
  ListedIndex.toRawIndex fun _ => S.lists

def gate (S : Scene) : Gate σ where
  host := S.host
  index := S.index

def isFresh (S : Scene) (o : Occurrence) : Bool :=
  (S.snapshot.judge S.level o.location).1

def faults (S : Scene) (o : Occurrence) : List Diagnostic :=
  (S.snapshot.judge S.level o.location).2

def judgeUnit (S : Scene) (file : DocumentUri) (mainFile : Option DocumentUri) :
    Bool × List Diagnostic :=
  if S.level = .deletedFiles then (true, [])
  else if S.level.asksEditor && S.snapshot.hasUnsavedEdits file then (false, [])
  else
    match (mainFile.getD file).filePath? with
    | none => (false, [])
    | some unitPath =>
      match S.snapshot.canonicalize unitPath with
      | .error e =>
        if e.kind = .notFound then (false, []) else (true, [.realPathUnknown unitPath e])
      | .ok realPath =>
        match S.lists.latestUnitDate realPath.text with
        | none => (false, [])
        | some unitDate =>
          match S.snapshot.modificationTime file with
          | .ok .fileDoesNotExist => (false, [])
          | .ok (.date modified) => (decide (modified ≤ unitDate), [])
          | .error e => (true, [.unitUndecided file e])

def judgeEdits (S : Scene) (uri : DocumentUri) : Bool × List Diagnostic :=
  if S.level.asksEditor then (S.snapshot.hasUnsavedEdits uri, [])
  else (false, [.editorNotAsked uri S.level])

theorem faults_eq_nil_of_stale (S : Scene) (o : Occurrence) (h : S.isFresh o = false) :
    S.faults o = [] := by
  unfold isFresh at h
  unfold faults
  unfold Snapshot.judge at h ⊢
  dsimp only at h ⊢
  split
  . rfl
  . split
    . rfl
    . split
      . rfl
      . rfl
      . simp_all

/-! What the queries find and what they report. -/

def fresh (S : Scene) (os : List Occurrence) : List Occurrence :=
  os.filter S.isFresh

def faultsIn (S : Scene) (os : List Occurrence) : List Diagnostic :=
  os.flatMap S.faults

theorem faultsIn_fresh (S : Scene) (os : List Occurrence) :
    S.faultsIn (S.fresh os) = S.faultsIn os := by
  unfold faultsIn fresh
  induction os with
  | nil => rfl
  | cons o rest ih =>
    cases h : S.isFresh o with
    | true => simp [h, ih]
    | false => simp [h, ih, S.faults_eq_nil_of_stale o h]

def listedOf (S : Scene) (usr : String) (roles : Roles) : List Occurrence :=
  S.lists.occurrences.filter (ListedIndex.isOf usr roles)

def listedContaining (S : Scene) (pattern : String) (options : PatternOptions) :
    List Occurrence :=
  S.lists.occurrences.filter fun o =>
    o.roles.intersects Role.canonical && Pattern.accepts options pattern o.symbol.name

def listedNamed (S : Scene) (name : String) : List Occurrence :=
  S.lists.occurrences.filter fun o =>
    o.roles.intersects Role.canonical && o.symbol.name == name

def occurrencesOf (S : Scene) (usr : String) (roles : Roles) : List Occurrence :=
  S.fresh (S.listedOf usr roles)

def relatedTo (S : Scene) (usr : String) (roles : Roles) : List Occurrence :=
  S.fresh (S.lists.occurrences.filter (ListedIndex.isRelatedTo usr roles))

def unitTests (S : Scene) : List Occurrence :=
  S.fresh (S.lists.unitTests.map (·.1))

def unitTestsFor (S : Scene) (paths : List String) : List Occurrence :=
  S.fresh ((S.lists.unitTests.filter (paths.contains ·.2)).map (·.1))

def definitionsOrDeclarations (S : Scene) (usr : String) : List Occurrence :=
  let definitions := S.occurrencesOf usr Role.definition
  if definitions.isEmpty then S.occurrencesOf usr Role.declaration else definitions

theorem occurrencesOf_sublist (S : Scene) (usr : String) (roles : Roles) :
    (S.occurrencesOf usr roles).Sublist S.lists.occurrences :=
  List.filter_sublist.trans List.filter_sublist

theorem definitionsOrDeclarations_sublist (S : Scene) (usr : String) :
    (S.definitionsOrDeclarations usr).Sublist S.lists.occurrences := by
  unfold definitionsOrDeclarations
  dsimp only
  split
  . apply occurrencesOf_sublist
  . apply occurrencesOf_sublist

def primaryDefinition (S : Scene) (usr : String) : Option Occurrence :=
  least? (S.definitionsOrDeclarations usr)

def primaryReports (S : Scene) (usr : String) : List Diagnostic :=
  S.faultsIn (S.definitionsOrDeclarations usr) ++
    if (S.primaryDefinition usr).isNone then [.noDefinition usr] else []

/-- What a visitor ends with when it is shown what is up to date, and what is reported. -/
def visit (S : Scene) (visitor : Occurrence → τ → Flow × τ) :
    List Occurrence → τ → (Flow × τ) × List Diagnostic
  | [], t => ((.proceed, t), [])
  | o :: rest, t =>
    if S.isFresh o then
      match visitor o t with
      | (.stop, t) => ((.stop, t), S.faults o)
      | (.proceed, t) =>
        ((visit S visitor rest t).1, S.faults o ++ (visit S visitor rest t).2)
    else
      visit S visitor rest t

theorem visit_fresh (S : Scene) (visitor : Occurrence → τ → Flow × τ) (os : List Occurrence)
    (t : τ) : S.visit visitor (S.fresh os) t = S.visit visitor os t := by
  unfold fresh
  induction os generalizing t with
  | nil => rfl
  | cons o rest ih =>
    cases h : S.isFresh o with
    | true =>
      rw [List.filter_cons_of_pos h]
      simp only [visit, h, if_true]
      split
      . rfl
      . rw [ih]
    | false =>
      rw [List.filter_cons_of_neg (by simp [h])]
      rw [ih]
      simp [visit, h]

end Scene

end FreshIndex
