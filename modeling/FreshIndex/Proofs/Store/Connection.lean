import FreshIndex.Proofs.Run
import FreshIndex.Proofs.Store.Catalog
import FreshIndex.Store.Connection

/-!
This module contains the rules for commands over a connection, and what a savepoint keeps: while
changes are made behind it, the database as it was before is not lost, whatever is refused.
-/

namespace FreshIndex.Store

variable {σ : Type} {m : Machine σ} {command : Command} {name : String}

theorem run_execute (m : Machine σ) (command : Command) (c : Connection σ) :
    (execute m command).run c =
      match m.answer command c.machine with
      | (.error (.ofCommand cause), machine) => (.error cause, { c with machine })
      | (.error (.ofTransaction cause), machine) => (.error cause, ⟨c.rolledBack, machine⟩)
      | (.ok given, machine) =>
        match c.perform given command with
        | .error cause => (.error cause, { c with machine })
        | .ok s => (.ok (), ⟨s, machine⟩) := by
  unfold execute
  rw [run_get_bind]
  rcases m.answer command c.machine with ⟨(cause | cause) | given, machine⟩
  . rfl
  . rfl
  . dsimp only
    cases c.perform given command <;> rfl

/-- From a session in `P` the commands lead to one in `Q`, or they fail and leave one in `E`. -/
def Runs (P : Session → Prop) (act : Transaction σ Unit) (Q E : Session → Prop) : Prop :=
  Tries (fun c => P c.toSession) act (fun _ c => Q c.toSession) fun _ c => E c.toSession

namespace Runs

variable {P Q R E : Session → Prop}

theorem pure (h : ∀ s, P s → Q s) : Runs P (pure () : Transaction σ Unit) Q E :=
  Tries.pure fun c => h c.toSession

theorem bind {act next : Transaction σ Unit} (ha : Runs P act Q E) (hb : Runs Q next R E) :
    Runs P (act >>= fun _ => next) R E :=
  Tries.bind ha fun _ => hb

/-- The rule for a command, with every way in which it can end. -/
theorem execute
    (hdone : ∀ given s s', P s → s.perform given command = .ok s' → Q s')
    (hfailed : ∀ given s cause, P s → s.perform given command = .error cause → E s)
    (hrefused : ∀ machine cause s, (m.answer command machine).1 = .error (.ofCommand cause) →
      P s → E s)
    (hundone : ∀ s, P s → E s.rolledBack) : Runs P (execute m command) Q E := by
  intro c hc
  have hrefused := hrefused c.machine
  rw [run_execute]
  revert hrefused
  rcases m.answer command c.machine with ⟨(cause | cause) | given, machine⟩
  . intro hrefused
    exact hrefused cause _ rfl hc
  . intro _
    exact hundone _ hc
  . intro _
    dsimp only
    cases hperform : c.perform given command with
    | error cause => exact hfailed given _ cause hc hperform
    | ok s => exact hdone given _ s hc hperform

/-- The rule for a command that leaves the same behind if it fails by itself or is refused alone. -/
theorem execute_of_kept
    (hdone : ∀ given s s', P s → s.perform given command = .ok s' → Q s')
    (hkept : ∀ s, P s → E s) (hundone : ∀ s, P s → E s.rolledBack) :
    Runs P (Store.execute m command) Q E :=
  execute hdone (fun _ s _ hs _ => hkept s hs) (fun _ _ s _ hs => hkept s hs) hundone

end Runs

/-! ### Savepoints -/

theorem sameName_self (name : String) : sameName name name = true :=
  BEq.rfl

namespace Session

variable {before : Catalog} {P Q : Catalog → Prop} {s s' : Session}

/-- No transaction is open. -/
def IsIdle (P : Catalog → Prop) (s : Session) : Prop :=
  s.savepoints = [] ∧ P s.catalog

/-- The only savepoint has the database as it was before. -/
def IsBehind (name : String) (before : Catalog) (P : Catalog → Prop) (s : Session) : Prop :=
  s.savepoints = [⟨name, before⟩] ∧ P s.catalog

/-- What was done behind a savepoint may be half done, or it was undone with its transaction. -/
def IsBroken (name : String) (before : Catalog) (s : Session) : Prop :=
  s.IsBehind name before (fun _ => True) ∨ s.IsIdle (· = before)

/-- What was done behind a savepoint is taken back, though the savepoint may be there. -/
def IsRestored (name : String) (before : Catalog) (P : Catalog → Prop) (s : Session) : Prop :=
  s.IsIdle P ∨ s.IsBehind name before P

theorem committed_of_nil (h : s.savepoints = []) : s.committed = s.catalog := by
  unfold committed
  rw [h]
  rfl

theorem IsIdle.rolledBack (h : s.IsIdle P) : s.rolledBack = s := by
  obtain ⟨catalog, savepoints⟩ := s
  obtain ⟨rfl, _⟩ := h
  rfl

theorem IsBehind.rolledBack (h : s.IsBehind name before P) : s.rolledBack = ⟨before, []⟩ := by
  unfold Session.rolledBack committed
  rw [h.1]
  rfl

theorem IsIdle.since (h : s.IsIdle P) : s.since name = .error (.noSuchSavepoint name) := by
  unfold Session.since
  rw [h.1]
  rfl

theorem IsBehind.since (h : s.IsBehind name before P) :
    s.since name = .ok (⟨name, before⟩, []) := by
  unfold Session.since
  rw [h.1, List.dropWhile_cons_of_neg (by simp [sameName_self])]

section

variable {given : Circumstances}

theorem IsIdle.perform_rollBackTo (h : s.IsIdle P) :
    s.perform given (.rollBackTo name) = .error (.noSuchSavepoint name) := by
  unfold Session.perform
  dsimp only
  rw [h.since]
  rfl

theorem IsBehind.perform_rollBackTo (h : s.IsBehind name before P) :
    s.perform given (.rollBackTo name) = .ok ⟨before, [⟨name, before⟩]⟩ := by
  unfold Session.perform
  dsimp only
  rw [h.since]
  rfl

theorem IsIdle.perform_release (h : s.IsIdle P) :
    s.perform given (.release name) = .error (.noSuchSavepoint name) := by
  unfold Session.perform
  dsimp only
  rw [h.since]
  rfl

theorem IsBehind.perform_release (h : s.IsBehind name before P) :
    s.perform given (.release name) = .ok ⟨s.catalog, []⟩ := by
  unfold Session.perform
  dsimp only
  rw [h.since]
  rfl

end

/-- A savepoint that is left holds what the connection has not put into the database. -/
theorem IsRestored.committed (h : s.IsRestored name before P) :
    s.committed = before ∨ s.committed = s.catalog := by
  unfold Session.committed
  rcases h with ⟨hsavepoints, _⟩ | ⟨hsavepoints, _⟩
  . rw [hsavepoints]
    exact .inr rfl
  . rw [hsavepoints]
    exact .inl rfl

theorem IsRestored.catalog (h : s.IsRestored name before P) : P s.catalog := by
  rcases h with ⟨_, hcatalog⟩ | ⟨_, hcatalog⟩
  . exact hcatalog
  . exact hcatalog

end Session

open Session

namespace Runs

variable {before : Catalog} {P Q : Catalog → Prop}

theorem setSavepoint (before : Catalog) :
    Runs (IsIdle (· = before)) (Store.execute m (.setSavepoint name))
      (IsBehind name before (· = before)) (IsIdle (· = before)) := by
  apply execute_of_kept
  . rintro given s s' ⟨hnone, hcatalog⟩ hperform
    cases hperform
    unfold IsBehind
    rw [hnone, hcatalog]
    exact ⟨rfl, rfl⟩
  . intro s hs
    exact hs
  . intro s hs
    rw [hs.rolledBack]
    exact hs

/-- Behind a savepoint a change is made, or the database as it was before is not lost. -/
theorem change {made : Change}
    (h : ∀ given c c', P c → c.perform given made = .ok c' → Q c') :
    Runs (IsBehind name before P) (Store.execute m (.change made)) (IsBehind name before Q)
      (IsBroken name before) := by
  apply execute_of_kept
  . rintro given s s' ⟨hsavepoint, hcatalog⟩ hperform
    obtain ⟨c, hchange, hperform⟩ := bind_eq_ok hperform
    cases hperform
    exact ⟨hsavepoint, h given _ c hcatalog hchange⟩
  . intro s hs
    exact .inl ⟨hs.1, trivial⟩
  . intro s hs
    rw [hs.rolledBack]
    exact .inr ⟨rfl, rfl⟩

theorem release :
    Runs (IsBehind name before P) (Store.execute m (.release name)) (IsIdle P)
      (IsBroken name before) := by
  apply execute_of_kept
  . intro given s s' hs hperform
    rw [hs.perform_release] at hperform
    cases hperform
    exact ⟨rfl, hs.2⟩
  . intro s hs
    exact .inl ⟨hs.1, trivial⟩
  . intro s hs
    rw [hs.rolledBack]
    exact .inr ⟨rfl, rfl⟩

end Runs

/-! ### Taking back -/

/-- A rollback to a savepoint is not refused, unless the whole transaction is undone with it. -/
def Machine.RollsBack (m : Machine σ) : Prop :=
  ∀ name machine cause, (m.answer (.rollBackTo name) machine).1 ≠ .error (.ofCommand cause)

theorem Machine.rollsBack_calm (moment : String) : (calm moment).RollsBack := by
  intro name machine cause h
  cases h

namespace Runs

variable {before : Catalog} {P Q : Catalog → Prop}

theorem rollBackTo (hrolls : m.RollsBack) :
    Runs (IsBroken name before) (Store.execute m (.rollBackTo name))
      (IsRestored name before (· = before)) (IsRestored name before (· = before)) := by
  apply execute
  . rintro given s s' (hs | hs) hperform
    . rw [hs.perform_rollBackTo] at hperform
      cases hperform
      exact .inr ⟨rfl, rfl⟩
    . rw [hs.perform_rollBackTo] at hperform
      cases hperform
  . rintro given s cause (hs | hs) hperform
    . rw [hs.perform_rollBackTo] at hperform
      cases hperform
    . exact .inl hs
  . intro machine cause s hrefused
    exact absurd hrefused (hrolls name machine cause)
  . rintro s (hs | hs)
    . rw [hs.rolledBack]
      exact .inl ⟨rfl, rfl⟩
    . rw [hs.rolledBack]
      exact .inl hs

/-- Whether a savepoint is there or not, it makes no difference to what was taken back. -/
theorem release_of_isRestored :
    Runs (IsRestored name before (· = before)) (Store.execute m (.release name))
      (IsRestored name before (· = before)) (IsRestored name before (· = before)) := by
  apply execute_of_kept
  . rintro given s s' (hs | hs) hperform
    . rw [hs.perform_release] at hperform
      cases hperform
    . rw [hs.perform_release] at hperform
      cases hperform
      exact .inl ⟨rfl, hs.2⟩
  . intro s hs
    exact hs
  . rintro s (hs | hs)
    . rw [hs.rolledBack]
      exact .inl hs
    . rw [hs.rolledBack]
      exact .inl ⟨rfl, rfl⟩

theorem change_of_isRestored {made : Change}
    (h : ∀ given c, before.perform given made = .ok c → Q c) :
    Runs (IsRestored name before (· = before)) (Store.execute m (.change made))
      (IsRestored name before fun c => c = before ∨ Q c)
      (IsRestored name before fun c => c = before ∨ Q c) := by
  apply execute_of_kept
  . rintro given s s' hs hperform
    obtain ⟨c, hchange, hperform⟩ := bind_eq_ok hperform
    cases hperform
    rcases hs with ⟨hsavepoints, hcatalog⟩ | ⟨hsavepoints, hcatalog⟩
    . rw [hcatalog] at hchange
      exact .inl ⟨hsavepoints, .inr (h given c hchange)⟩
    . rw [hcatalog] at hchange
      exact .inr ⟨hsavepoints, .inr (h given c hchange)⟩
  . rintro s (hs | hs)
    . exact .inl ⟨hs.1, .inl hs.2⟩
    . exact .inr ⟨hs.1, .inl hs.2⟩
  . rintro s (hs | hs)
    . rw [hs.rolledBack]
      exact .inl ⟨hs.1, .inl hs.2⟩
    . rw [hs.rolledBack]
      exact .inl ⟨rfl, .inl rfl⟩

end Runs

end FreshIndex.Store
