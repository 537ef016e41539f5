import FreshIndex.Proofs.Run
import FreshIndex.Proofs.Scene.Basic

/-!
This module contains the proof that a checker finds what the scene shows, whatever it was asked
before: its memories only hold what the machine would answer again.
-/

namespace FreshIndex

variable {σ α β : Type} {ds es : List Diagnostic}

def Event.diagnostic? : Event → Option Diagnostic
  | .diagnostic d => some d
  | _ => none

namespace World

def diagnostics (w : World σ) : List Diagnostic :=
  w.events.filterMap Event.diagnostic?

theorem diagnostics_cons (s : σ) (e : Event) (trace : List Event) :
    diagnostics ⟨s, e :: trace⟩ = diagnostics ⟨s, trace⟩ ++ e.diagnostic?.toList := by
  unfold diagnostics events
  cases h : e.diagnostic? <;> simp [h]

/-- So far `ds` was reported. -/
def Told (ds : List Diagnostic) (w : World σ) : Prop :=
  w.diagnostics = ds

theorem leads_ask {call : Call} {question : σ → α × σ} {a : α} (h : ∀ s, (question s).1 = a) :
    Leads (Told ds) (ask call question) a (Told ds) := by
  intro w hw
  constructor
  . exact h w.state
  . unfold Told at hw ⊢
    simp only [ask]
    rw [diagnostics_cons]
    simp only [Event.diagnostic?, Option.toList_none, List.append_nil]
    exact hw

theorem leads_report (d : Diagnostic) :
    Leads (Told (σ := σ) ds) (report d) () (Told (ds ++ [d])) := by
  intro w hw
  constructor
  . rfl
  . unfold Told at hw ⊢
    rw [← hw]
    exact diagnostics_cons w.state (.diagnostic d) w.trace

theorem leads_askIndex {call : Call} {question : σ → Reply α × σ} {a : α}
    (h : ∀ s, (question s).1 = ⟨a, []⟩) :
    Leads (Told ds) (askIndex call question) a (Told ds) := by
  unfold askIndex
  apply Leads.bind
  . apply leads_ask h
  . apply Leads.bind (a := ())
    . exact Leads.pure
    . exact Leads.pure

end World

namespace Checker

open World

theorem leads_latestInChain (S : Scene) (start : FilePath) (hops : Nat) (current : FilePath) :
    Leads (Told (σ := σ) ds) (latestInChain S.host start hops current)
      (S.snapshot.latestInChain start hops current) (Told ds) := by
  fun_induction Snapshot.latestInChain S.snapshot start hops current with
  | case1 hops current e hstat =>
    unfold latestInChain
    apply Leads.bind (leads_ask fun _ => hstat)
    exact Leads.pure
  | case2 hops current stat hstat hlink =>
    unfold latestInChain
    apply Leads.bind (leads_ask fun _ => hstat)
    simp only [hlink]
    exact Leads.pure
  | case3 current stat hstat hlink =>
    unfold latestInChain
    apply Leads.bind (leads_ask fun _ => hstat)
    simp only [hlink]
    exact Leads.pure
  | case4 current stat hstat hlink hops e hread =>
    unfold latestInChain
    apply Leads.bind (leads_ask fun _ => hstat)
    simp only [hlink]
    apply Leads.bind (leads_ask fun _ => hread)
    exact Leads.pure
  | case5 current stat hstat hlink hops target hread e hlater ih =>
    unfold latestInChain
    apply Leads.bind (leads_ask fun _ => hstat)
    simp only [hlink]
    apply Leads.bind (leads_ask fun _ => hread)
    rw [hlater] at ih
    apply Leads.bind ih
    exact Leads.pure
  | case6 current stat hstat hlink hops target hread later hlater ih =>
    unfold latestInChain
    apply Leads.bind (leads_ask fun _ => hstat)
    simp only [hlink]
    apply Leads.bind (leads_ask fun _ => hread)
    rw [hlater] at ih
    apply Leads.bind ih
    exact Leads.pure

theorem leads_findModificationTime (S : Scene) (uri : DocumentUri) :
    Leads (Told (σ := σ) ds) (findModificationTime S.host uri) (S.snapshot.modificationTime uri)
      (Told ds) := by
  unfold findModificationTime Snapshot.modificationTime
  cases uri.filePath? with
  | none => exact Leads.pure
  | some path =>
    dsimp only
    apply Leads.bind (leads_latestInChain S path maxHops path)
    cases S.snapshot.latestInChain path maxHops path with
    | ok modified => exact Leads.pure
    | error e =>
      by_cases hkind : e.kind = .notFound
      . simp only [hkind, if_true]
        exact Leads.pure
      . simp only [hkind, if_false]
        exact Leads.pure

/-- Every answer that the checker remembers would be given again. -/
structure Accurate (m : Snapshot) (c : Checker) : Prop where
  unsavedEdits : ∀ uri answer, c.unsavedEdits.get? uri = some answer →
    m.hasUnsavedEdits uri = answer
  modificationTimes : ∀ uri time, c.modificationTimes.get? uri = some time →
    m.modificationTime uri = .ok time
  existence : ∀ uri answer, c.existence.get? uri = some answer → m.fileExists uri = answer

theorem accurate_ofLevel (m : Snapshot) (level : CheckLevel) : Accurate m (ofLevel level) where
  unsavedEdits := by simp [ofLevel]
  modificationTimes := by simp [ofLevel]
  existence := by simp [ofLevel]

namespace Accurate

variable {m : Snapshot} {c : Checker} {uri : DocumentUri}

theorem insert_unsavedEdits (h : Accurate m c) :
    Accurate m { c with
      unsavedEdits := c.unsavedEdits.insert uri (m.hasUnsavedEdits uri) } := by
  refine ⟨?_, h.modificationTimes, h.existence⟩
  intro uri' answer hanswer
  rw [Memo.get?_insert] at hanswer
  split at hanswer
  . simp_all
  . exact h.unsavedEdits uri' answer hanswer

theorem insert_modificationTimes (h : Accurate m c) {time : ModificationTime}
    (htime : m.modificationTime uri = .ok time) :
    Accurate m { c with modificationTimes := c.modificationTimes.insert uri time } := by
  refine ⟨h.unsavedEdits, ?_, h.existence⟩
  intro uri' time' htime'
  rw [Memo.get?_insert] at htime'
  split at htime'
  . simp_all
  . exact h.modificationTimes uri' time' htime'

theorem insert_existence (h : Accurate m c) :
    Accurate m { c with existence := c.existence.insert uri (m.fileExists uri) } := by
  refine ⟨h.unsavedEdits, h.modificationTimes, ?_⟩
  intro uri' answer hanswer
  rw [Memo.get?_insert] at hanswer
  split at hanswer
  . simp_all
  . exact h.existence uri' answer hanswer

end Accurate

end Checker

namespace Checking

/-- The checker works at the level of the scene, and so far `ds` was reported. -/
structure Within (S : Scene) (ds : List Diagnostic) (c : Checking σ) : Prop where
  level : c.checker.level = S.level
  accurate : c.checker.Accurate S.snapshot
  told : c.world.Told ds

theorem leads_inWorld {S : Scene} {act : StateM (World σ) α} {a : α}
    (h : Leads (World.Told ds) act a (World.Told es)) :
    Leads (Within S ds) (inWorld act) a (Within S es) := by
  intro c hc
  obtain ⟨h1, h2⟩ := h c.world hc.told
  exact ⟨h1, hc.level, hc.accurate, h2⟩

end Checking

namespace Checker

open Checking

theorem leads_modificationTime (S : Scene) (uri : DocumentUri) :
    Leads (Within (σ := σ) S ds) (modificationTime S.host uri) (S.snapshot.modificationTime uri)
      (Within S ds) := by
  unfold modificationTime
  apply Leads.get_bind
  intro c hc
  cases hknown : c.checker.modificationTimes.get? uri with
  | some time =>
    rw [hc.accurate.modificationTimes uri time hknown]
    exact Leads.pure
  | none =>
    apply Leads.bind (leads_inWorld (leads_findModificationTime S uri))
    cases htime : S.snapshot.modificationTime uri with
    | error e => exact Leads.pure
    | ok time =>
      -- What is remembered is what the machine would answer again, for it does not change.
      apply Leads.bind (a := ()) (Q := Within S ds)
      . apply Leads.modify
        intro c hc
        exact ⟨hc.level, hc.accurate.insert_modificationTimes htime, hc.told⟩
      . exact Leads.pure

theorem leads_fileExists (S : Scene) (uri : DocumentUri) :
    Leads (Within (σ := σ) S ds) (fileExists S.host uri) (S.snapshot.fileExists uri)
      (Within S ds) := by
  have hremember : Leads (Within (σ := σ) S ds)
      (modify fun c => { c with
        checker.existence := c.checker.existence.insert uri (S.snapshot.fileExists uri) })
      () (Within S ds) := by
    apply Leads.modify
    intro c hc
    exact ⟨hc.level, hc.accurate.insert_existence, hc.told⟩
  unfold fileExists
  apply Leads.get_bind
  intro c hc
  cases hknown : c.checker.existence.get? uri with
  | some answer =>
    rw [hc.accurate.existence uri answer hknown]
    exact Leads.pure
  | none =>
    unfold Snapshot.fileExists at hremember ⊢
    dsimp only
    cases hpath : uri.filePath? with
    | none =>
      rw [hpath] at hremember
      apply Leads.bind Leads.pure
      apply Leads.bind hremember
      exact Leads.pure
    | some path =>
      rw [hpath] at hremember
      refine Leads.bind (leads_inWorld (World.leads_ask
        (a := S.snapshot.pathExists path) fun _ => rfl)) ?_
      apply Leads.bind hremember
      exact Leads.pure

theorem leads_hasUnsavedEdits (S : Scene) (uri : DocumentUri) :
    Leads (Within (σ := σ) S ds) (hasUnsavedEdits S.host uri)
      (S.level.asksEditor && S.snapshot.hasUnsavedEdits uri) (Within S ds) := by
  unfold hasUnsavedEdits
  apply Leads.get_bind
  intro c hc
  dsimp only
  rw [hc.level]
  cases S.level.asksEditor with
  | false => exact Leads.pure
  | true =>
    simp only [if_true, Bool.true_and]
    cases hknown : c.checker.unsavedEdits.get? uri with
    | some answer =>
      rw [hc.accurate.unsavedEdits uri answer hknown]
      exact Leads.pure
    | none =>
      dsimp only
      refine Leads.bind (leads_inWorld (World.leads_ask
        (a := S.snapshot.hasUnsavedEdits uri) fun _ => rfl)) ?_
      apply Leads.bind (a := ()) (Q := Within S ds)
      . apply Leads.modify
        intro c hc
        exact ⟨hc.level, hc.accurate.insert_unsavedEdits, hc.told⟩
      . exact Leads.pure

theorem leads_isFresh (S : Scene) (l : Location) :
    Leads (Within (σ := σ) S ds) (isFresh S.host l) (S.snapshot.judge S.level l).1
      (Within S (ds ++ (S.snapshot.judge S.level l).2)) := by
  unfold isFresh Snapshot.judge
  apply Leads.get_bind
  intro c hc
  rw [hc.level]
  dsimp only
  by_cases hlevel : S.level = .deletedFiles
  . simp only [hlevel, if_true, List.append_nil]
    apply leads_fileExists
  . simp only [hlevel, if_false]
    apply Leads.bind (leads_hasUnsavedEdits S _)
    cases S.level.asksEditor && S.snapshot.hasUnsavedEdits (.ofPathText l.path) with
    | true =>
      simp only [if_true, List.append_nil]
      exact Leads.pure
    | false =>
      simp only [Bool.false_eq_true, if_false]
      apply Leads.bind (leads_modificationTime S _)
      cases S.snapshot.modificationTime (.ofPathText l.path) with
      | ok time =>
        cases time with
        | fileDoesNotExist =>
          simp only [List.append_nil]
          exact Leads.pure
        | date modified =>
          simp only [List.append_nil]
          exact Leads.pure
      | error e =>
        apply Leads.bind (leads_inWorld (World.leads_report _))
        exact Leads.pure

theorem isFresh_ofLevel (m : Snapshot) (level : CheckLevel) (w : World σ) (l : Location) :
    (isFresh (.ofSnapshot fun _ => m) l ⟨.ofLevel level, w⟩).1 = (m.judge level l).1 ∧
      (isFresh (.ofSnapshot fun _ => m) l ⟨.ofLevel level, w⟩).2.world.diagnostics
        = w.diagnostics ++ (m.judge level l).2 := by
  let S : Scene := ⟨level, m, .empty⟩
  have hwithin : Checking.Within S w.diagnostics ⟨.ofLevel level, w⟩ :=
    ⟨rfl, accurate_ofLevel m level, rfl⟩
  obtain ⟨hanswer, hafter⟩ := leads_isFresh S l _ hwithin
  exact ⟨hanswer, hafter.told⟩

theorem leads_hasFreshUnit (S : Scene) (file : DocumentUri) (mainFile : Option DocumentUri) :
    Leads (Within (σ := σ) S ds) (hasFreshUnit S.host S.index file mainFile)
      (S.judgeUnit file mainFile).1 (Within S (ds ++ (S.judgeUnit file mainFile).2)) := by
  unfold hasFreshUnit Scene.judgeUnit
  apply Leads.get_bind
  intro c hc
  rw [hc.level]
  by_cases hlevel : S.level = .deletedFiles
  . simp only [hlevel, if_true, List.append_nil]
    exact Leads.pure
  . simp only [hlevel, if_false]
    apply Leads.bind (leads_hasUnsavedEdits S _)
    cases S.level.asksEditor && S.snapshot.hasUnsavedEdits file with
    | true =>
      simp only [if_true, List.append_nil]
      exact Leads.pure
    | false =>
      simp only [Bool.false_eq_true, if_false]
      cases (mainFile.getD file).filePath? with
      | none =>
        simp only [List.append_nil]
        exact Leads.pure
      | some unitPath =>
        dsimp only
        refine Leads.bind (leads_inWorld (World.leads_ask
          (a := S.snapshot.canonicalize unitPath) fun _ => rfl)) ?_
        cases S.snapshot.canonicalize unitPath with
        | error e =>
          by_cases hkind : e.kind = .notFound
          . simp only [hkind, if_true, List.append_nil]
            exact Leads.pure
          . simp only [hkind, if_false]
            apply Leads.bind (leads_inWorld (World.leads_report _))
            exact Leads.pure
        | ok realPath =>
          dsimp only
          refine Leads.bind (leads_inWorld (World.leads_askIndex
            (a := S.lists.latestUnitDate realPath.text) fun _ => rfl)) ?_
          cases S.lists.latestUnitDate realPath.text with
          | none =>
            simp only [List.append_nil]
            exact Leads.pure
          | some unitDate =>
            dsimp only
            apply Leads.bind (leads_modificationTime S _)
            cases S.snapshot.modificationTime file with
            | ok time =>
              cases time with
              | fileDoesNotExist =>
                simp only [List.append_nil]
                exact Leads.pure
              | date modified =>
                simp only [List.append_nil]
                exact Leads.pure
            | error e =>
              apply Leads.bind (leads_inWorld (World.leads_report _))
              exact Leads.pure

theorem leads_fileHasUnsavedEdits (S : Scene) (uri : DocumentUri) :
    Leads (Within (σ := σ) S ds) (fileHasUnsavedEdits S.host uri) (S.judgeEdits uri).1
      (Within S (ds ++ (S.judgeEdits uri).2)) := by
  unfold fileHasUnsavedEdits Scene.judgeEdits
  apply Leads.get_bind
  intro c hc
  dsimp only
  rw [hc.level]
  have hedits : Leads (Within (σ := σ) S ds) _ _ _ := leads_hasUnsavedEdits S uri
  cases hasks : S.level.asksEditor with
  | true =>
    simp only [if_true, List.append_nil]
    simpa [hasks] using hedits
  | false =>
    simp only [Bool.false_eq_true, if_false]
    apply Leads.bind (leads_inWorld (World.leads_report _))
    exact Leads.pure

end Checker

end FreshIndex
