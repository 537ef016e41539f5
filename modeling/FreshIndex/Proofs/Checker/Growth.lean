import FreshIndex.Checker
import FreshIndex.Proofs.Run

/-!
This module contains the proof that a checker only adds to what it remembers: no answer that it
keeps is taken away or replaced, whatever it is asked and whatever the machine and the index answer.
-/

namespace FreshIndex

variable {σ α β : Type}

namespace Memo

variable {κ ν : Type} [DecidableEq κ] {m m' m'' : Memo κ ν} {k : κ} {v : ν}

/-- Answers are added one after the other, each for a key that has none at that time. -/
inductive GrowsTo (m : Memo κ ν) : Memo κ ν → Prop
  | same : GrowsTo m m
  | insert {m' : Memo κ ν} {k : κ} (h : GrowsTo m m') (hnew : m'.get? k = none) (v : ν) :
    GrowsTo m (m'.insert k v)

namespace GrowsTo

theorem trans (h : m.GrowsTo m') (h' : m'.GrowsTo m'') : m.GrowsTo m'' := by
  induction h' with
  | same => exact h
  | insert _ hnew v ih => exact .insert ih hnew v

theorem get?_eq (h : m.GrowsTo m') (hkept : m.get? k = some v) : m'.get? k = some v := by
  induction h with
  | same => exact hkept
  | @insert m' l _ hnew w ih =>
    have hne : k ≠ l := by
      rintro rfl
      rw [hnew] at ih
      cases ih
    rw [get?_insert, if_neg hne]
    exact ih

end GrowsTo

end Memo

namespace Checker

/-- Each of the memories grows, or stays as it is. -/
structure GrowsTo (c c' : Checker) : Prop where
  unsavedEdits : c.unsavedEdits.GrowsTo c'.unsavedEdits
  modificationTimes : c.modificationTimes.GrowsTo c'.modificationTimes
  existence : c.existence.GrowsTo c'.existence

namespace GrowsTo

variable {c c' c'' : Checker} {uri : DocumentUri}

theorem refl : c.GrowsTo c :=
  ⟨.same, .same, .same⟩

theorem trans (h : c.GrowsTo c') (h' : c'.GrowsTo c'') : c.GrowsTo c'' where
  unsavedEdits := h.unsavedEdits.trans h'.unsavedEdits
  modificationTimes := h.modificationTimes.trans h'.modificationTimes
  existence := h.existence.trans h'.existence

theorem insert_unsavedEdits (h : c.GrowsTo c') (hnew : c'.unsavedEdits.get? uri = none)
    (answer : Bool) :
    c.GrowsTo { c' with unsavedEdits := c'.unsavedEdits.insert uri answer } :=
  ⟨h.unsavedEdits.insert hnew answer, h.modificationTimes, h.existence⟩

theorem insert_time (h : c.GrowsTo c') (hnew : c'.modificationTimes.get? uri = none)
    (time : ModificationTime) :
    c.GrowsTo { c' with modificationTimes := c'.modificationTimes.insert uri time } :=
  ⟨h.unsavedEdits, h.modificationTimes.insert hnew time, h.existence⟩

theorem insert_existence (h : c.GrowsTo c') (hnew : c'.existence.get? uri = none)
    (answer : Bool) :
    c.GrowsTo { c' with existence := c'.existence.insert uri answer } :=
  ⟨h.unsavedEdits, h.modificationTimes, h.existence.insert hnew answer⟩

end GrowsTo

/-- The action only adds to what the checker remembers. -/
def Grows (act : StateM (Checking σ) α) : Prop :=
  ∀ c : Checker, Ends (c.GrowsTo ·.checker) act fun _ s => c.GrowsTo s.checker

namespace Grows

theorem pure {a : α} : Grows (pure a : StateM (Checking σ) α) := by
  intro c
  apply Ends.pure
  intro s hs
  exact hs

theorem bind {act : StateM (Checking σ) α} {next : α → StateM (Checking σ) β} (hact : Grows act)
    (hnext : ∀ a, Grows (next a)) : Grows (act >>= next) := by
  intro c
  refine Ends.bind (hact c) ?_
  intro a
  exact hnext a c

theorem get_bind {next : Checking σ → StateM (Checking σ) α} (h : ∀ s, Grows (next s)) :
    Grows (get >>= next) := by
  intro c s hs
  exact h s c s hs

theorem inWorld {act : StateM (World σ) α} : Grows (Checking.inWorld act) := by
  intro c s hs
  exact hs

/-- The rule for a block that keeps what the world answers, if the checker is `k` when it asks. -/
theorem ends_inWorld_bind {c k : Checker} {act : StateM (World σ) α}
    {next : α → StateM (Checking σ) β}
    (h : ∀ a, Ends (·.checker = k) (next a) fun _ s => c.GrowsTo s.checker) :
    Ends (·.checker = k) (Checking.inWorld act >>= next) fun _ s => c.GrowsTo s.checker := by
  refine Ends.bind (Q := fun _ s => s.checker = k) ?_ h
  intro s hs
  exact hs

theorem ends_modify {c k : Checker} {f : Checking σ → Checking σ} {a : α}
    (h : ∀ s, s.checker = k → c.GrowsTo (f s).checker) :
    Ends (·.checker = k) (do modify f; return a) fun _ s => c.GrowsTo s.checker :=
  Ends.bind (Q := fun _ s => c.GrowsTo s.checker) (.modify h) fun _ => .pure fun _ h => h

end Grows

variable (host : Host σ) (uri : DocumentUri)

theorem grows_modificationTime : Grows (modificationTime host uri) := by
  intro c
  unfold modificationTime
  apply Ends.get_bind_eq
  intro s hs
  cases hknown : s.checker.modificationTimes.get? uri with
  | some time => exact .pure fun _ h => h ▸ hs
  | none =>
    rintro _ rfl
    refine Grows.ends_inWorld_bind ?_ _ rfl
    intro found
    cases found with
    | error e => exact .pure fun _ h => h ▸ hs
    | ok time =>
      apply Grows.ends_modify
      intro s' hs'
      rw [hs']
      exact hs.insert_time hknown time

theorem grows_fileExists : Grows (fileExists host uri) := by
  intro c
  unfold fileExists
  apply Ends.get_bind_eq
  intro s hs
  cases hknown : s.checker.existence.get? uri with
  | some answer => exact .pure fun _ h => h ▸ hs
  | none =>
    have hinsert (answer : Bool) : Ends (·.checker = s.checker) (do
        modify fun c => { c with checker.existence := c.checker.existence.insert uri answer }
        return answer : StateM (Checking σ) Bool) fun _ s => c.GrowsTo s.checker := by
      apply Grows.ends_modify
      intro s' hs'
      rw [hs']
      exact hs.insert_existence hknown answer
    rintro _ rfl
    cases uri.filePath? with
    | none => exact hinsert false _ rfl
    | some path => exact Grows.ends_inWorld_bind hinsert _ rfl

theorem grows_hasUnsavedEdits : Grows (hasUnsavedEdits host uri) := by
  intro c
  unfold hasUnsavedEdits
  apply Ends.get_bind_eq
  intro s hs
  dsimp only
  cases s.checker.level.asksEditor with
  | false => exact .pure fun _ h => h ▸ hs
  | true =>
    simp only [if_true]
    cases hknown : s.checker.unsavedEdits.get? uri with
    | some answer => exact .pure fun _ h => h ▸ hs
    | none =>
      rintro _ rfl
      refine Grows.ends_inWorld_bind ?_ _ rfl
      intro answer
      apply Grows.ends_modify
      intro s' hs'
      rw [hs']
      exact hs.insert_unsavedEdits hknown answer

theorem grows_isFresh (l : Location) : Grows (isFresh host l) := by
  unfold isFresh
  apply Grows.get_bind
  intro s
  by_cases hlevel : s.checker.level = .deletedFiles
  . simp only [hlevel, if_true]
    apply grows_fileExists
  . simp only [hlevel, if_false]
    apply Grows.bind (grows_hasUnsavedEdits host _)
    intro isEdited
    cases isEdited with
    | true => exact .pure
    | false =>
      simp only [Bool.false_eq_true, if_false]
      apply Grows.bind (grows_modificationTime host _)
      intro found
      cases found with
      | error e => exact .bind .inWorld fun _ => .pure
      | ok time => cases time <;> exact .pure

theorem grows_hasFreshUnit (index : RawIndex σ) (file : DocumentUri)
    (mainFile : Option DocumentUri) : Grows (hasFreshUnit host index file mainFile) := by
  unfold hasFreshUnit
  apply Grows.get_bind
  intro s
  by_cases hlevel : s.checker.level = .deletedFiles
  . simp only [hlevel, if_true]
    exact .pure
  . simp only [hlevel, if_false]
    apply Grows.bind (grows_hasUnsavedEdits host file)
    intro isEdited
    cases isEdited with
    | true => exact .pure
    | false =>
      simp only [Bool.false_eq_true, if_false]
      cases (mainFile.getD file).filePath? with
      | none => exact .pure
      | some unitPath =>
        apply Grows.bind .inWorld
        intro answer
        cases answer with
        | error e =>
          dsimp only
          split
          . exact .pure
          . exact .bind .inWorld fun _ => .pure
        | ok realPath =>
          apply Grows.bind .inWorld
          intro date
          cases date with
          | none => exact .pure
          | some unitDate =>
            apply Grows.bind (grows_modificationTime host file)
            intro found
            cases found with
            | error e => exact .bind .inWorld fun _ => .pure
            | ok time => cases time <;> exact .pure

theorem grows_fileHasUnsavedEdits : Grows (fileHasUnsavedEdits host uri) := by
  unfold fileHasUnsavedEdits
  apply Grows.get_bind
  intro s
  dsimp only
  cases s.checker.level.asksEditor with
  | true => exact grows_hasUnsavedEdits host uri
  | false => exact .bind .inWorld fun _ => .pure

end Checker

end FreshIndex
