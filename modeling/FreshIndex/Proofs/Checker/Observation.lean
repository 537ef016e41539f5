import FreshIndex.Checker
import FreshIndex.Proofs.Scene.Checker

/-!
This module contains machines that keep what they answered, and the rules by which one follows what
a checker does on such a machine. The machine may answer differently each time it is asked.
-/

namespace FreshIndex

variable {σ α β : Type}

inductive Observation
  | stat (path : FilePath) (answer : Except IoError FileStat)
  | readLink (path : FilePath) (answer : Except IoError FilePath)
  | canonicalize (path : FilePath) (answer : Except IoError FilePath)
  | pathExists (path : FilePath) (answer : Bool)
  | unsavedEdits (uri : DocumentUri) (answer : Bool)

/-- The question with what it makes to be observed. -/
def observing (note : α → List Observation) (question : σ → α × σ) :
    σ × List Observation → α × (σ × List Observation) :=
  fun s =>
    let (answer, next) := question s.1
    (answer, (next, s.2 ++ note answer))

def Host.observed (host : Host σ) : Host (σ × List Observation) where
  stat path := observing (fun answer => [.stat path answer]) (host.stat path)
  readLink path := observing (fun answer => [.readLink path answer]) (host.readLink path)
  canonicalize path :=
    observing (fun answer => [.canonicalize path answer]) (host.canonicalize path)
  pathExists path := observing (fun answer => [.pathExists path answer]) (host.pathExists path)
  hasUnsavedEdits uri :=
    observing (fun answer => [.unsavedEdits uri answer]) (host.hasUnsavedEdits uri)

/-- The index beside a machine that keeps what it answers. What an index answers is not kept. -/
def RawIndex.observed (index : RawIndex σ) : RawIndex (σ × List Observation) where
  occurrences usr roles := observing (fun _ => []) (index.occurrences usr roles)
  related usr roles := observing (fun _ => []) (index.related usr roles)
  containing pattern options := observing (fun _ => []) (index.containing pattern options)
  named name := observing (fun _ => []) (index.named name)
  symbols path := observing (fun _ => []) (index.symbols path)
  unitTests := observing (fun _ => []) index.unitTests
  unitTestsOf paths := observing (fun _ => []) (index.unitTestsOf paths)
  mainFiles path crossLanguage := observing (fun _ => []) (index.mainFiles path crossLanguage)
  unitDate path := observing (fun _ => []) (index.unitDate path)
  poll := observing (fun _ => []) index.poll

def World.forget (w : World (σ × List Observation)) : World σ :=
  ⟨w.state.1, w.trace⟩

def Checking.forget (c : Checking (σ × List Observation)) : Checking σ :=
  ⟨c.checker, c.world.forget⟩

/--
From a checker `c`, the action on the observed machine does what the action does on the machine
itself. `Post` is said of its answer, of the checker afterwards and of what is observed and reported
meanwhile.
-/
def Observes (observed : StateM (Checking (σ × List Observation)) α)
    (act : StateM (Checking σ) α) (c : Checker)
    (Post : α → Checker → List Observation → List Diagnostic → Prop) : Prop :=
  ∀ w : World (σ × List Observation),
    (observed ⟨c, w⟩).1 = (act ⟨c, w.forget⟩).1 ∧
    (observed ⟨c, w⟩).2.forget = (act ⟨c, w.forget⟩).2 ∧
    ∃ os ds, (observed ⟨c, w⟩).2.world.state.2 = w.state.2 ++ os ∧
      (observed ⟨c, w⟩).2.world.diagnostics = w.diagnostics ++ ds ∧
      Post (observed ⟨c, w⟩).1 (observed ⟨c, w⟩).2.checker os ds

namespace Observes

variable {c : Checker} {Post Post' : α → Checker → List Observation → List Diagnostic → Prop}

theorem pure {a : α} (h : Post a c [] []) :
    Observes (pure a : StateM (Checking (σ × List Observation)) α) (pure a) c Post := by
  intro w
  refine ⟨rfl, rfl, [], [], ?_, ?_, h⟩
  . exact (List.append_nil _).symm
  . exact (List.append_nil _).symm

theorem bind {observed : StateM (Checking (σ × List Observation)) α} {act : StateM (Checking σ) α}
    {next' : α → StateM (Checking (σ × List Observation)) β} {next : α → StateM (Checking σ) β}
    {Q : α → Checker → List Observation → List Diagnostic → Prop}
    {Post : β → Checker → List Observation → List Diagnostic → Prop}
    (hact : Observes observed act c Q)
    (hnext : ∀ a c' os ds, Q a c' os ds → Observes (next' a) (next a) c'
      fun b c'' os' ds' => Post b c'' (os ++ os') (ds ++ ds')) :
    Observes (observed >>= next') (act >>= next) c Post := by
  intro w
  obtain ⟨hanswer, hforget, os, ds, hos, hds, hpost⟩ := hact w
  have hlater := hnext _ _ os ds hpost (observed ⟨c, w⟩).2.world
  obtain ⟨hanswer', hforget', os', ds', hos', hds', hpost'⟩ := hlater
  have hstate : act ⟨c, w.forget⟩
      = ((observed ⟨c, w⟩).1, ⟨(observed ⟨c, w⟩).2.checker, (observed ⟨c, w⟩).2.world.forget⟩) := by
    rw [hanswer, ← Checking.forget, hforget]
    rfl
  have hrun : (act >>= next) ⟨c, w.forget⟩
      = next (observed ⟨c, w⟩).1
          ⟨(observed ⟨c, w⟩).2.checker, (observed ⟨c, w⟩).2.world.forget⟩ := by
    change next (act ⟨c, w.forget⟩).1 (act ⟨c, w.forget⟩).2 = _
    rw [hstate]
  refine ⟨?_, ?_, os ++ os', ds ++ ds', ?_, ?_, hpost'⟩
  . rw [hrun]
    exact hanswer'
  . rw [hrun]
    exact hforget'
  . rw [← List.append_assoc, ← hos]
    exact hos'
  . rw [← List.append_assoc, ← hds]
    exact hds'

theorem weaken {observed : StateM (Checking (σ × List Observation)) α}
    {act : StateM (Checking σ) α} (hact : Observes observed act c Post)
    (hpost : ∀ a c' os ds, Post a c' os ds → Post' a c' os ds) : Observes observed act c Post' := by
  intro w
  obtain ⟨hanswer, hforget, os, ds, hos, hds, h⟩ := hact w
  exact ⟨hanswer, hforget, os, ds, hos, hds, hpost _ _ os ds h⟩

theorem get_bind
    {next' : Checking (σ × List Observation) → StateM (Checking (σ × List Observation)) α}
    {next : Checking σ → StateM (Checking σ) α}
    (h : ∀ w, Observes (next' ⟨c, w⟩) (next ⟨c, w.forget⟩) c Post) :
    Observes (get >>= next') (get >>= next) c Post := by
  intro w
  exact h w w

theorem modify_bind {next' : StateM (Checking (σ × List Observation)) α}
    {next : StateM (Checking σ) α} (f : Checker → Checker) (h : Observes next' next (f c) Post) :
    Observes ((modify fun k => { k with checker := f k.checker }) >>= fun _ => next')
      ((modify fun k => { k with checker := f k.checker }) >>= fun _ => next) c Post := by
  intro w
  exact h w

theorem ask_bind {call : Call} (note : β → List Observation) {question : σ → β × σ}
    {question' : σ × List Observation → β × (σ × List Observation)}
    {next' : β → StateM (Checking (σ × List Observation)) α} {next : β → StateM (Checking σ) α}
    (hquestion : question' = observing note question)
    (h : ∀ b, Observes (next' b) (next b) c fun a c' os ds => Post a c' (note b ++ os) ds) :
    Observes (Checking.inWorld (World.ask call question') >>= next')
      (Checking.inWorld (World.ask call question) >>= next) c Post := by
  subst hquestion
  apply bind (Q := fun b c' os ds => c' = c ∧ os = note b ∧ ds = [])
  . intro w
    refine ⟨rfl, rfl, note (question w.state.1).1, [], rfl, ?_, rfl, rfl, rfl⟩
    rw [List.append_nil]
    change World.diagnostics ⟨_, .call call :: w.trace⟩ = _
    rw [World.diagnostics_cons]
    exact List.append_nil _
  . rintro b c' os ds ⟨rfl, rfl, rfl⟩
    exact h b

theorem report_bind {d : Diagnostic}
    {next' : StateM (Checking (σ × List Observation)) α} {next : StateM (Checking σ) α}
    (h : Observes next' next c fun a c' os ds => Post a c' os (d :: ds)) :
    Observes (Checking.inWorld (World.report d) >>= fun _ => next')
      (Checking.inWorld (World.report d) >>= fun _ => next) c Post := by
  apply bind (Q := fun _ c' os ds => c' = c ∧ os = [] ∧ ds = [d])
  . intro w
    refine ⟨rfl, rfl, [], [d], (List.append_nil _).symm, ?_, rfl, rfl, rfl⟩
    exact World.diagnostics_cons w.state (.diagnostic d) w.trace
  . rintro _ c' os ds ⟨rfl, rfl, rfl⟩
    exact h

theorem emitAll (events : List Event) :
    Observes (σ := σ) (Checking.inWorld (World.emitAll events))
      (Checking.inWorld (World.emitAll events)) c fun _ c' os _ => c' = c ∧ os = [] := by
  induction events with
  | nil => exact pure ⟨rfl, rfl⟩
  | cons e rest ih =>
    intro w
    obtain ⟨hanswer, hforget, os, ds, hos, hds, hpost⟩ := ih ⟨w.state, e :: w.trace⟩
    refine ⟨hanswer, hforget, os, e.diagnostic?.toList ++ ds, hos, ?_, hpost⟩
    rw [← List.append_assoc, ← World.diagnostics_cons]
    exact hds

end Observes

end FreshIndex
