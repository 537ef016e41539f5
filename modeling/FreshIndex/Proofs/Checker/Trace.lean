import FreshIndex.Proofs.Checker.Lookup

/-!
This module contains the proof that a checker decides by what it remembers and by the state of the
machine, and not by what was seen of the run before.
-/

namespace FreshIndex

variable {σ α β : Type}

/-- The same checker on a machine in the same state. What was seen so far may differ. -/
structure Checking.Alike (c d : Checking σ) : Prop where
  checker : c.checker = d.checker
  state : c.world.state = d.world.state

/-- From what is alike, the action gives the same result and leads to what is alike. -/
def IgnoresTrace (act : StateM (Checking σ) α) : Prop :=
  ∀ c d, c.Alike d → (act c).1 = (act d).1 ∧ (act c).2.Alike (act d).2

namespace IgnoresTrace

theorem pure {a : α} : IgnoresTrace (pure a : StateM (Checking σ) α) := by
  intro c d h
  exact ⟨rfl, h⟩

theorem bind {act : StateM (Checking σ) α} {next : α → StateM (Checking σ) β}
    (hact : IgnoresTrace act) (hnext : ∀ a, IgnoresTrace (next a)) :
    IgnoresTrace (act >>= next) := by
  intro c d h
  obtain ⟨hanswer, hafter⟩ := hact c d h
  have hlater := hnext (act c).1 _ _ hafter
  rw [hanswer] at hlater
  change (next (act c).1 (act c).2).1 = (next (act d).1 (act d).2).1 ∧
    (next (act c).1 (act c).2).2.Alike (next (act d).1 (act d).2).2
  rw [hanswer]
  exact hlater

/-- The rule for a block that reads the checker and nothing else of the state. -/
theorem get_bind {next : Checking σ → StateM (Checking σ) α}
    (hreads : ∀ k w w', next ⟨k, w⟩ = next ⟨k, w'⟩) (hnext : ∀ c, IgnoresTrace (next c)) :
    IgnoresTrace (get >>= next) := by
  intro c d h
  have hsame : next c = next d := by
    rw [hreads c.checker c.world d.world, h.checker]
  change (next c c).1 = (next d d).1 ∧ (next c c).2.Alike (next d d).2
  rw [hsame]
  exact hnext d c d h

theorem modify (f : Checker → Checker) :
    IgnoresTrace (modify fun c => { c with checker := f c.checker } :
      StateM (Checking σ) PUnit) := by
  intro c d h
  exact ⟨rfl, congrArg f h.checker, h.state⟩

theorem ask {call : Call} {question : σ → α × σ} :
    IgnoresTrace (Checking.inWorld (World.ask call question)) := by
  intro c d h
  simp only [Checking.inWorld, World.ask, h.state, true_and]
  exact ⟨h.checker, rfl⟩

theorem report {d : Diagnostic} :
    IgnoresTrace (Checking.inWorld (World.report d) : StateM (Checking σ) Unit) := by
  intro c d h
  exact ⟨rfl, h.checker, h.state⟩

end IgnoresTrace

namespace Checker

variable (host : Host σ)

theorem ignoresTrace_latestInChain (start : FilePath) (hops : Nat) (current : FilePath) :
    IgnoresTrace (Checking.inWorld (latestInChain host start hops current)) := by
  unfold latestInChain
  simp only [inWorld_bind]
  apply IgnoresTrace.bind .ask
  intro answer
  cases answer with
  | error e => exact .pure
  | ok metadata =>
    cases hlink : metadata.isLink with
    | false =>
      simp only [hlink, Bool.not_false, if_true]
      exact .pure
    | true =>
      simp only [hlink, Bool.not_true, Bool.false_eq_true, if_false]
      cases hops with
      | zero => exact .pure
      | succ hops =>
        simp only [inWorld_bind]
        apply IgnoresTrace.bind .ask
        intro answer
        cases answer with
        | error e => exact .pure
        | ok target =>
          simp only [inWorld_bind]
          apply IgnoresTrace.bind
          . exact ignoresTrace_latestInChain start hops (linkDestination current target)
          . intro later
            cases later with
            | error e => exact .pure
            | ok later => exact .pure
termination_by hops

theorem ignoresTrace_findModificationTime (uri : DocumentUri) :
    IgnoresTrace (Checking.inWorld (findModificationTime host uri)) := by
  unfold findModificationTime
  cases uri.filePath? with
  | none => exact .pure
  | some path =>
    dsimp only
    simp only [inWorld_bind]
    apply IgnoresTrace.bind (ignoresTrace_latestInChain host path maxHops path)
    intro latest
    cases latest with
    | ok modified => exact .pure
    | error e =>
      by_cases hkind : e.kind = .notFound
      . simp only [hkind, if_true]
        exact .pure
      . simp only [hkind, if_false]
        exact .pure

theorem ignoresTrace_modificationTime (uri : DocumentUri) :
    IgnoresTrace (modificationTime host uri) := by
  unfold modificationTime
  apply IgnoresTrace.get_bind fun _ _ _ => rfl
  intro c
  cases c.checker.modificationTimes.get? uri with
  | some time => exact .pure
  | none =>
    apply IgnoresTrace.bind (ignoresTrace_findModificationTime host uri)
    intro found
    cases found with
    | error e => exact .pure
    | ok time =>
      refine IgnoresTrace.bind (.modify fun k =>
        { k with modificationTimes := k.modificationTimes.insert uri time }) ?_
      intro _
      exact .pure

theorem ignoresTrace_fileExists (uri : DocumentUri) : IgnoresTrace (fileExists host uri) := by
  unfold fileExists
  apply IgnoresTrace.get_bind fun _ _ _ => rfl
  intro c
  cases c.checker.existence.get? uri with
  | some answer => exact .pure
  | none =>
    have hinsert (answer : Bool) : IgnoresTrace (σ := σ) (do
        modify fun c => { c with checker.existence := c.checker.existence.insert uri answer }
        return answer) := by
      refine IgnoresTrace.bind (.modify fun k =>
        { k with existence := k.existence.insert uri answer }) ?_
      intro _
      exact .pure
    cases uri.filePath? with
    | none => exact hinsert false
    | some path => exact IgnoresTrace.bind .ask hinsert

theorem ignoresTrace_hasUnsavedEdits (uri : DocumentUri) :
    IgnoresTrace (hasUnsavedEdits host uri) := by
  unfold hasUnsavedEdits
  apply IgnoresTrace.get_bind fun _ _ _ => rfl
  intro c
  dsimp only
  cases c.checker.level.asksEditor with
  | false => exact .pure
  | true =>
    simp only [if_true]
    cases c.checker.unsavedEdits.get? uri with
    | some answer => exact .pure
    | none =>
      apply IgnoresTrace.bind .ask
      intro answer
      refine IgnoresTrace.bind (.modify fun k =>
        { k with unsavedEdits := k.unsavedEdits.insert uri answer }) ?_
      intro _
      exact .pure

theorem ignoresTrace_isFresh (l : Location) : IgnoresTrace (isFresh host l) := by
  unfold isFresh
  apply IgnoresTrace.get_bind fun _ _ _ => rfl
  intro c
  by_cases hlevel : c.checker.level = .deletedFiles
  . simp only [hlevel, if_true]
    apply ignoresTrace_fileExists
  . simp only [hlevel, if_false]
    apply IgnoresTrace.bind (ignoresTrace_hasUnsavedEdits host _)
    intro isEdited
    cases isEdited with
    | true => exact .pure
    | false =>
      simp only [Bool.false_eq_true, if_false]
      apply IgnoresTrace.bind (ignoresTrace_modificationTime host _)
      intro found
      cases found with
      | error e =>
        apply IgnoresTrace.bind .report
        intro _
        exact .pure
      | ok time =>
        cases time with
        | fileDoesNotExist => exact .pure
        | date modified => exact .pure

end Checker

end FreshIndex
