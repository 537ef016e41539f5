import FreshIndex.Proofs.Scene.Checker

/-!
This module contains which paths a checker examines when it looks for the date of a file: those of a
chain of links, from its start up to where it ends or fails.
-/

namespace FreshIndex

variable {σ α : Type} {ps : List FilePath}

/-- The path that is examined, a link there not being followed. -/
def Event.examined? : Event → Option FilePath
  | .call (.stat path) => some path
  | _ => none

def World.examined (w : World σ) : List FilePath :=
  w.events.filterMap Event.examined?

/-- The paths from `current` on that are examined if at most `hops` links are followed. -/
def Snapshot.pathsInChain (m : Snapshot) : (hops : Nat) → (current : FilePath) → List FilePath
  | hops, current =>
    current ::
      match m.stat current with
      | .error _ => []
      | .ok stat =>
        if !stat.isLink then []
        else
          match hops with
          | 0 => []
          | hops + 1 =>
            match m.readLink current with
            | .error _ => []
            | .ok target => pathsInChain m hops (Checker.linkDestination current target)

namespace Snapshot

variable {m : Snapshot} {start current target : FilePath} {s : FileStat} {later : Timestamp}
  {hops : Nat}

theorem latestInChain_of_file (hstat : m.stat current = .ok s) (hfile : s.isLink = false) :
    m.latestInChain start hops current = .ok s.modified := by
  unfold latestInChain
  simp [hstat, hfile]

theorem pathsInChain_of_file (hstat : m.stat current = .ok s) (hfile : s.isLink = false) :
    m.pathsInChain hops current = [current] := by
  unfold pathsInChain
  simp [hstat, hfile]

theorem latestInChain_of_link (hstat : m.stat current = .ok s) (hlink : s.isLink = true)
    (hread : m.readLink current = .ok target)
    (hlater : m.latestInChain start hops (Checker.linkDestination current target) = .ok later) :
    m.latestInChain start (hops + 1) current = .ok (max s.modified later) := by
  rw [latestInChain]
  simp [hstat, hlink, hread, hlater]

theorem pathsInChain_of_link (hstat : m.stat current = .ok s) (hlink : s.isLink = true)
    (hread : m.readLink current = .ok target) :
    m.pathsInChain (hops + 1) current
      = current :: m.pathsInChain hops (Checker.linkDestination current target) := by
  rw [pathsInChain]
  simp [hstat, hlink, hread]

end Snapshot

namespace World

/-- So far the paths `ps` were examined. -/
def Examined (ps : List FilePath) (w : World σ) : Prop :=
  w.examined = ps

theorem leads_ask_stat {path : FilePath} {question : σ → α × σ} {a : α}
    (h : ∀ s, (question s).1 = a) :
    Leads (Examined ps) (ask (.stat path) question) a (Examined (ps ++ [path])) := by
  intro w hw
  refine ⟨h w.state, ?_⟩
  unfold Examined examined events at hw ⊢
  simp [ask, hw, Event.examined?]

theorem leads_ask_readLink {path : FilePath} {question : σ → α × σ} {a : α}
    (h : ∀ s, (question s).1 = a) :
    Leads (Examined ps) (ask (.readLink path) question) a (Examined ps) := by
  intro w hw
  refine ⟨h w.state, ?_⟩
  unfold Examined examined events at hw ⊢
  simp [ask, hw, Event.examined?]

end World

theorem Checking.leads_inWorld_examined {act : StateM (World σ) α} {a : α} {qs : List FilePath}
    (h : Leads (World.Examined ps) act a (World.Examined qs)) :
    Leads (fun c => World.Examined ps c.world) (inWorld act) a
      (fun c => World.Examined qs c.world) := by
  intro c hc
  exact h c.world hc

namespace Checker

open World

theorem examines_latestInChain (m : Snapshot) (start : FilePath) (hops : Nat)
    (current : FilePath) :
    Leads (Examined (σ := σ) ps) (latestInChain (.ofSnapshot fun _ => m) start hops current)
      (m.latestInChain start hops current) (Examined (ps ++ m.pathsInChain hops current)) := by
  fun_induction Snapshot.latestInChain m start hops current generalizing ps with
  | case1 hops current e hstat =>
    unfold latestInChain Snapshot.pathsInChain
    apply Leads.bind (leads_ask_stat fun _ => hstat)
    simp only [hstat]
    exact Leads.pure
  | case2 hops current stat hstat hlink =>
    unfold latestInChain Snapshot.pathsInChain
    apply Leads.bind (leads_ask_stat fun _ => hstat)
    simp only [hstat, hlink]
    exact Leads.pure
  | case3 current stat hstat hlink =>
    unfold latestInChain Snapshot.pathsInChain
    apply Leads.bind (leads_ask_stat fun _ => hstat)
    simp only [hstat, hlink]
    exact Leads.pure
  | case4 current stat hstat hlink hops e hread =>
    unfold latestInChain Snapshot.pathsInChain
    apply Leads.bind (leads_ask_stat fun _ => hstat)
    simp only [hstat, hlink]
    apply Leads.bind (leads_ask_readLink fun _ => hread)
    simp only [hread]
    exact Leads.pure
  | case5 current stat hstat hlink hops target hread e hlater ih =>
    unfold latestInChain Snapshot.pathsInChain
    apply Leads.bind (leads_ask_stat fun _ => hstat)
    simp only [hstat, hlink, hread, Bool.false_eq_true, if_false]
    apply Leads.bind (leads_ask_readLink fun _ => hread)
    have hrest := @ih (ps ++ [current])
    rw [hlater, List.append_assoc] at hrest
    apply Leads.bind hrest
    exact Leads.pure
  | case6 current stat hstat hlink hops target hread later hlater ih =>
    unfold latestInChain Snapshot.pathsInChain
    apply Leads.bind (leads_ask_stat fun _ => hstat)
    simp only [hstat, hlink, hread, Bool.false_eq_true, if_false]
    apply Leads.bind (leads_ask_readLink fun _ => hread)
    have hrest := @ih (ps ++ [current])
    rw [hlater, List.append_assoc] at hrest
    apply Leads.bind hrest
    exact Leads.pure

theorem examines_findModificationTime (m : Snapshot) {uri : DocumentUri} {path : FilePath}
    (hpath : uri.filePath? = some path) :
    Leads (Examined (σ := σ) ps) (findModificationTime (.ofSnapshot fun _ => m) uri)
      (m.modificationTime uri) (Examined (ps ++ m.pathsInChain maxHops path)) := by
  unfold findModificationTime Snapshot.modificationTime
  rw [hpath]
  dsimp only
  apply Leads.bind (examines_latestInChain m path maxHops path)
  cases m.latestInChain path maxHops path with
  | ok modified => exact Leads.pure
  | error e =>
    by_cases hkind : e.kind = .notFound
    . simp only [hkind, if_true]
      exact Leads.pure
    . simp only [hkind, if_false]
      exact Leads.pure

/-- A file whose date is not known yet is looked for anew. -/
theorem examines_modificationTime (m : Snapshot) {uri : DocumentUri} {path : FilePath}
    (hpath : uri.filePath? = some path) :
    Leads (fun c : Checking σ =>
        c.checker.modificationTimes.get? uri = none ∧ Examined ps c.world)
      (modificationTime (.ofSnapshot fun _ => m) uri) (m.modificationTime uri)
      (fun c => Examined (ps ++ m.pathsInChain maxHops path) c.world) := by
  unfold modificationTime
  apply Leads.get_bind
  rintro c ⟨hunknown, _⟩
  rw [hunknown]
  apply Leads.bind
    ((Checking.leads_inWorld_examined (examines_findModificationTime m hpath)).weaken
      fun _ hc => hc.2)
  cases m.modificationTime uri with
  | error e => exact Leads.pure
  | ok time =>
    apply Leads.bind (a := ()) (Q := fun c => Examined (ps ++ m.pathsInChain maxHops path) c.world)
    . apply Leads.modify
      intro c hc
      exact hc
    . exact Leads.pure

/-- Whatever a checker was asked before, it gives the date that the machine shows. -/
theorem modificationTime_of_accurate {m : Snapshot} {c : Checking σ} (h : c.checker.Accurate m)
    {uri : DocumentUri} :
    (modificationTime (.ofSnapshot fun _ => m) uri c).1 = m.modificationTime uri := by
  let S : Scene := ⟨c.checker.level, m, .empty⟩
  have hwithin : Checking.Within S c.world.diagnostics c := ⟨rfl, h, rfl⟩
  exact (leads_modificationTime S uri c hwithin).1

end Checker

end FreshIndex
