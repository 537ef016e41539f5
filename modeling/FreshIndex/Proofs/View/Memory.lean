import FreshIndex.Proofs.Checker.Growth
import FreshIndex.Proofs.Scene.Query

/-!
This module contains the proof that a view remembers as much of containers after a query as before,
and that its checker remembers what it did and more, whatever the index and the machine answer. Only
the look-up of containers is left out.
-/

namespace FreshIndex

variable {σ τ α β : Type}

namespace View

def Remembers (μ : Memory) (v : View σ) : Prop :=
  v.memory = μ

def KeepsMemory (act : StateM (View σ) α) : Prop :=
  ∀ μ, Ends (Remembers μ) act fun _ => Remembers μ

namespace KeepsMemory

theorem pure {a : α} : KeepsMemory (pure a : StateM (View σ) α) := by
  intro μ
  apply Ends.pure
  intro v hv
  exact hv

theorem bind {act : StateM (View σ) α} {next : α → StateM (View σ) β} (hact : KeepsMemory act)
    (hnext : ∀ a, KeepsMemory (next a)) : KeepsMemory (act >>= next) := by
  intro μ
  refine Ends.bind (hact μ) ?_
  intro a
  exact hnext a μ

theorem inChecker {act : StateM (Checking σ) α} : KeepsMemory (inChecker act) := by
  intro μ v hv
  exact hv

theorem inWorld {act : StateM (World σ) α} : KeepsMemory (inWorld act) :=
  inChecker

end KeepsMemory

/-- The action only adds to what the checker of the view remembers. -/
def Grows (act : StateM (View σ) α) : Prop :=
  ∀ c : Checker, Ends (c.GrowsTo ·.checker) act fun _ v => c.GrowsTo v.checker

namespace Grows

theorem pure {a : α} : Grows (pure a : StateM (View σ) α) := by
  intro c
  apply Ends.pure
  intro v hv
  exact hv

theorem bind {act : StateM (View σ) α} {next : α → StateM (View σ) β} (hact : Grows act)
    (hnext : ∀ a, Grows (next a)) : Grows (act >>= next) := by
  intro c
  refine Ends.bind (hact c) ?_
  intro a
  exact hnext a c

theorem inChecker {act : StateM (Checking σ) α} (h : Checker.Grows act) :
    Grows (inChecker act) := by
  intro c v hv
  exact h c v.toChecking hv

end Grows

/-- The action asks the checker and the world, and leaves all else of a view as it is. -/
structure OnlyAsks (act : StateM (View σ) α) : Prop where
  keepsMemory : KeepsMemory act
  grows : Grows act

namespace OnlyAsks

theorem pure {a : α} : OnlyAsks (pure a : StateM (View σ) α) :=
  ⟨.pure, .pure⟩

theorem bind {act : StateM (View σ) α} {next : α → StateM (View σ) β} (hact : OnlyAsks act)
    (hnext : ∀ a, OnlyAsks (next a)) : OnlyAsks (act >>= next) where
  keepsMemory := hact.keepsMemory.bind fun a => (hnext a).keepsMemory
  grows := hact.grows.bind fun a => (hnext a).grows

theorem inChecker {act : StateM (Checking σ) α} (h : Checker.Grows act) :
    OnlyAsks (inChecker act) :=
  ⟨.inChecker, .inChecker h⟩

theorem inWorld {act : StateM (World σ) α} : OnlyAsks (inWorld act) :=
  inChecker .inWorld

end OnlyAsks

variable (g : Gate σ)

theorem onlyAsks_isFresh (l : Location) : OnlyAsks (inChecker (Checker.isFresh g.host l)) :=
  .inChecker (Checker.grows_isFresh g.host l)

theorem onlyAsks_hasFreshUnit (uri : DocumentUri) (mainFile : Option DocumentUri) :
    OnlyAsks (hasFreshUnit g uri mainFile) :=
  .inChecker (Checker.grows_hasFreshUnit g.host g.index uri mainFile)

theorem onlyAsks_fileHasUnsavedEdits (uri : DocumentUri) : OnlyAsks (fileHasUnsavedEdits g uri) :=
  .inChecker (Checker.grows_fileHasUnsavedEdits g.host uri)

theorem onlyAsks_retainFresh (os : List Occurrence) : OnlyAsks (retainFresh g os) := by
  induction os with
  | nil => exact .pure
  | cons o rest ih =>
    apply OnlyAsks.bind (onlyAsks_isFresh g o.location)
    intro isFresh
    apply OnlyAsks.bind ih
    intro kept
    exact .pure

theorem onlyAsks_visitFresh (visitor : Occurrence → τ → Flow × τ) (os : List Occurrence)
    (t : τ) : OnlyAsks (visitFresh g visitor os t) := by
  induction os generalizing t with
  | nil => exact .pure
  | cons o rest ih =>
    apply OnlyAsks.bind (onlyAsks_isFresh g o.location)
    intro isFresh
    cases isFresh with
    | false => exact ih t
    | true =>
      simp only [if_true]
      rcases visitor o t with ⟨flow, t'⟩
      cases flow with
      | stop => exact .pure
      | proceed => exact ih t'

theorem onlyAsks_eachFresh (scan : Scan) (visitor : Occurrence → τ → Flow × τ) (t : τ) :
    OnlyAsks (eachFresh g scan visitor t) := by
  apply OnlyAsks.bind (onlyAsks_visitFresh g visitor scan.visited t)
  rintro ⟨flow, t'⟩
  cases flow with
  | stop => exact .pure
  | proceed =>
    apply OnlyAsks.bind .inWorld
    intro _
    exact .pure

theorem onlyAsks_eachOccurrence (usr : String) (roles : Roles)
    (visitor : Occurrence → τ → Flow × τ) (t : τ) :
    OnlyAsks (eachOccurrence g usr roles visitor t) := by
  apply OnlyAsks.bind .inWorld
  intro scan
  apply onlyAsks_eachFresh

theorem onlyAsks_occurrencesOf (usr : String) (roles : Roles) :
    OnlyAsks (occurrencesOf g usr roles) := by
  apply OnlyAsks.bind .inWorld
  intro found
  apply onlyAsks_retainFresh

theorem onlyAsks_relatedTo (usr : String) (roles : Roles) :
    OnlyAsks (relatedTo g usr roles) := by
  apply OnlyAsks.bind .inWorld
  intro found
  apply onlyAsks_retainFresh

theorem onlyAsks_definitionsOrDeclarations (usr : String) :
    OnlyAsks (definitionsOrDeclarations g usr) := by
  apply OnlyAsks.bind (onlyAsks_occurrencesOf g usr _)
  intro definitions
  cases definitions with
  | nil => apply onlyAsks_occurrencesOf
  | cons o rest => exact .pure

theorem onlyAsks_primaryDefinition (usr : String) :
    OnlyAsks (primaryDefinition g usr) := by
  apply OnlyAsks.bind (onlyAsks_definitionsOrDeclarations g usr)
  intro found
  cases hprimary : least? found with
  | none =>
    simp only [Option.isNone_none, if_true]
    apply OnlyAsks.bind .inWorld
    intro _
    exact .pure
  | some o => exact .pure

theorem onlyAsks_retainBuilt (files : List DocumentUri) :
    OnlyAsks (retainBuilt g files) := by
  induction files with
  | nil => exact .pure
  | cons file rest ih =>
    apply OnlyAsks.bind (onlyAsks_hasFreshUnit g file none)
    intro isBuilt
    apply OnlyAsks.bind ih
    intro kept
    exact .pure

theorem onlyAsks_symbolsIn (path : String) : OnlyAsks (symbolsIn g path) := by
  apply OnlyAsks.bind (onlyAsks_hasFreshUnit g _ none)
  intro isBuilt
  cases isBuilt with
  | false => exact .pure
  | true => exact .inWorld

theorem onlyAsks_mainFilesOf (uri : DocumentUri) (crossLanguage : Bool) :
    OnlyAsks (mainFilesOf g uri crossLanguage) := by
  apply OnlyAsks.bind .inWorld
  intro paths
  apply onlyAsks_retainBuilt

theorem onlyAsks_namedContainer (container : Symbol) :
    OnlyAsks (namedContainer g container) := by
  unfold namedContainer
  by_cases hkind : container.kind = .extensionType
  . simp only [hkind, if_true]
    apply OnlyAsks.bind (onlyAsks_relatedTo g _ _)
    intro found
    cases found with
    | nil => exact .pure
    | cons extended rest => exact .pure
  . simp only [hkind, if_false]
    exact .pure

theorem onlyAsks_anyDefinition (usr : String) : OnlyAsks (anyDefinition g usr) := by
  apply OnlyAsks.bind (onlyAsks_eachOccurrence g usr _ first none)
  intro result
  exact .pure

theorem onlyAsks_runFiles (query : FileQuery) :
    OnlyAsks (query.run (τ := τ) g) := by
  cases query with
  | symbolsIn path => exact .bind (onlyAsks_symbolsIn g path) fun _ => .pure
  | mainFilesOf uri crossLanguage =>
    exact .bind (onlyAsks_mainFilesOf g uri crossLanguage) fun _ => .pure
  | hasFreshUnit uri mainFile => exact .bind (onlyAsks_hasFreshUnit g uri mainFile) fun _ => .pure
  | fileHasUnsavedEdits uri => exact .bind (onlyAsks_fileHasUnsavedEdits g uri) fun _ => .pure

theorem onlyAsks_runOccurrences (query : OccurrenceQuery τ) :
    (∃ o, query = .containersOf o) ∨ OnlyAsks (query.run g) := by
  cases query with
  | occurrencesOf usr roles =>
    exact .inr (.bind (onlyAsks_occurrencesOf g usr roles) fun _ => .pure)
  | relatedTo usr roles => exact .inr (.bind (onlyAsks_relatedTo g usr roles) fun _ => .pure)
  | eachOccurrence usr roles visitor t =>
    exact .inr (.bind (onlyAsks_eachOccurrence g usr roles visitor t) fun _ => .pure)
  | eachContaining pattern options visitor t =>
    exact .inr (.bind (.bind .inWorld fun scan => onlyAsks_eachFresh g scan visitor t)
      fun _ => .pure)
  | eachNamed name visitor t =>
    exact .inr (.bind (.bind .inWorld fun scan => onlyAsks_eachFresh g scan visitor t)
      fun _ => .pure)
  | unitTests =>
    exact .inr (.bind (.bind .inWorld fun found => onlyAsks_retainFresh g found)
      fun _ => .pure)
  | unitTestsFor paths =>
    exact .inr (.bind (.bind .inWorld fun found => onlyAsks_retainFresh g found)
      fun _ => .pure)
  | definitionsOrDeclarations usr =>
    exact .inr (.bind (onlyAsks_definitionsOrDeclarations g usr) fun _ => .pure)
  | primaryDefinition usr => exact .inr (.bind (onlyAsks_primaryDefinition g usr) fun _ => .pure)
  | containersOf o => exact .inl ⟨o, rfl⟩

end View

end FreshIndex
