import FreshIndex.Checker
import FreshIndex.Proofs.Run

/-!
This module contains the proof that nothing is up to date in a document which the editor holds
changes to, whatever the machine answers otherwise.
-/

namespace FreshIndex

namespace Checker

variable {σ : Type} {host : Host σ} {uri : DocumentUri}

/-- The editor says that a document has changes, and the checker was not told otherwise before. -/
structure HearsOfEdits (host : Host σ) (uri : DocumentUri) (c : Checking σ) : Prop where
  level : c.checker.level = .inMemoryModifiedFiles
  reported : (host.hasUnsavedEdits uri c.world.state).1 = true
  notDenied : c.checker.unsavedEdits.get? uri ≠ some false

theorem leads_ask_of_edited :
    Leads (HearsOfEdits host uri)
      (Checking.inWorld (World.ask (.unsavedEdits uri) (host.hasUnsavedEdits uri))) true
      fun _ => True := by
  intro c hc
  exact ⟨hc.reported, trivial⟩

theorem leads_hasUnsavedEdits_of_edited :
    Leads (HearsOfEdits host uri) (hasUnsavedEdits host uri) true fun _ => True := by
  unfold hasUnsavedEdits
  apply Leads.get_bind
  intro c hc
  dsimp only
  rw [hc.level]
  cases hknown : c.checker.unsavedEdits.get? uri with
  | some answer =>
    cases answer with
    | true => exact Leads.pure.weaken fun _ _ => trivial
    | false => cases hc.notDenied hknown
  | none =>
    apply Leads.bind leads_ask_of_edited
    apply Leads.bind (Leads.modify (Q := fun _ => True) fun _ _ => trivial)
    exact Leads.pure

theorem isFresh_of_edited {l : Location} {c : Checking σ}
    (h : HearsOfEdits host (.ofPathText l.path) c) : (isFresh host l c).1 = false := by
  have hleads : Leads (HearsOfEdits host (.ofPathText l.path)) (isFresh host l) false
      fun _ => True := by
    unfold isFresh
    apply Leads.get_bind
    intro c hc
    rw [hc.level, if_neg (by decide)]
    apply Leads.bind leads_hasUnsavedEdits_of_edited
    exact Leads.pure
  exact (hleads c h).1

end Checker

end FreshIndex
