import FreshIndex.Proofs.Checker.Observation

/-!
This module contains what can be observed while a checker does one thing: what it asks, what it
remembers afterwards and what it makes of it.
-/

namespace FreshIndex

variable {σ α : Type}

def ModificationTime.ofLatest : Except IoError Timestamp → Except IoError ModificationTime
  | .ok modified => .ok (.date modified)
  | .error e => if e.kind = .notFound then .ok .fileDoesNotExist else .error e

namespace Observation

def existence? (uri : DocumentUri) : Observation → Option Bool
  | pathExists path answer => if uri = .file path then some answer else none
  | _ => none

def edits? (uri : DocumentUri) : Observation → Option Bool
  | unsavedEdits asked answer => if uri = asked then some answer else none
  | _ => none

def isOfLookup : Observation → Bool
  | stat .. => true
  | readLink .. => true
  | _ => false

@[simp]
theorem isOfLookup_stat (path : FilePath) (answer : Except IoError FileStat) :
    (stat path answer).isOfLookup = true :=
  rfl

@[simp]
theorem isOfLookup_readLink (path : FilePath) (answer : Except IoError FilePath) :
    (readLink path answer).isOfLookup = true :=
  rfl

/--
What was found by a look-up that started at `start`, is at `current` now and may follow `hops` more
links, if what is observed is all of the rest of it and nothing else.
-/
def latest? (start : FilePath) :
    (hops : Nat) → (current : FilePath) → List Observation → Option (Except IoError Timestamp)
  | _, current, [.stat path (.error e)] => if path = current then some (.error e) else none
  | hops, current, [.stat path (.ok metadata)] =>
    if path = current then
      if !metadata.isLink then some (.ok metadata.modified)
      else if hops = 0 then some (.error (Checker.tooManyLinks start))
      else none
    else none
  | hops + 1, current, .stat path (.ok metadata) :: .readLink link answer :: rest =>
    if path = current ∧ link = current ∧ metadata.isLink = true then
      match answer with
      | .error e => if rest.isEmpty then some (.error e) else none
      | .ok target =>
        (latest? start hops (Checker.linkDestination current target) rest).map
          (Except.map (max metadata.modified))
    else none
  | _, _, _ => none

def lookup? (uri : DocumentUri) (os : List Observation) :
    Option (Except IoError ModificationTime) :=
  uri.filePath?.bind fun path =>
    (latest? path Checker.maxHops path (os.filter isOfLookup)).map ModificationTime.ofLatest

end Observation

open Observation

namespace Checker

theorem inWorld_bind {β : Type} (act : StateM (World σ) α) (next : α → StateM (World σ) β) :
    Checking.inWorld (act >>= next)
      =
    (Checking.inWorld act >>= fun a => Checking.inWorld (next a)) :=
  rfl

theorem observes_latestInChain (host : Host σ) (c : Checker) (start : FilePath) (hops : Nat)
    (current : FilePath) :
    Observes (Checking.inWorld (latestInChain host.observed start hops current))
      (Checking.inWorld (latestInChain host start hops current)) c
      fun found c' os ds => c' = c ∧ ds = [] ∧ (∀ o ∈ os, o.isOfLookup = true) ∧
        latest? start hops current os = some found := by
  unfold latestInChain
  simp only [inWorld_bind]
  apply Observes.ask_bind (fun answer => [.stat current answer]) rfl
  intro answer
  cases answer with
  | error e =>
    apply Observes.pure
    simp [latest?]
  | ok metadata =>
    cases hlink : metadata.isLink with
    | false =>
      simp only [hlink, Bool.not_false, if_true]
      apply Observes.pure
      simp [latest?, hlink]
    | true =>
      simp only [hlink, Bool.not_true, Bool.false_eq_true, if_false]
      cases hops with
      | zero =>
        apply Observes.pure
        simp [latest?, hlink]
      | succ hops =>
        simp only [inWorld_bind]
        apply Observes.ask_bind (fun answer => [.readLink current answer]) rfl
        intro answer
        cases answer with
        | error e =>
          apply Observes.pure
          simp [latest?, hlink]
        | ok target =>
          simp only [inWorld_bind]
          -- What is observed from the target on is a look-up with one link less.
          apply Observes.bind
            (observes_latestInChain host c start hops (linkDestination current target))
          rintro found c' os ds ⟨rfl, rfl, hos, hfound⟩
          cases found with
          | error e =>
            apply Observes.pure
            simpa [latest?, hlink, hfound, Except.map] using hos
          | ok later =>
            apply Observes.pure
            simpa [latest?, hlink, hfound, Except.map] using hos
termination_by hops

theorem observes_findModificationTime (host : Host σ) (c : Checker) (uri : DocumentUri) :
    Observes (Checking.inWorld (findModificationTime host.observed uri))
      (Checking.inWorld (findModificationTime host uri)) c
      fun found c' os ds => c' = c ∧ ds = [] ∧ (∀ o ∈ os, o.isOfLookup = true) ∧
        match uri.filePath? with
        | none => os = [] ∧ found = .ok .fileDoesNotExist
        | some _ => lookup? uri os = some found := by
  unfold findModificationTime
  cases hpath : uri.filePath? with
  | none =>
    apply Observes.pure
    simp
  | some path =>
    dsimp only
    simp only [inWorld_bind]
    apply Observes.bind (observes_latestInChain host c path maxHops path)
    rintro latest c' os ds ⟨rfl, rfl, hos, hlatest⟩
    have hlookup : lookup? uri os = some (ModificationTime.ofLatest latest) := by
      unfold lookup?
      rw [List.filter_eq_self.mpr hos, hpath, Option.bind_some, hlatest]
      rfl
    cases latest with
    | ok modified =>
      apply Observes.pure
      simp only [List.append_nil, true_and]
      exact ⟨hos, hlookup⟩
    | error e =>
      unfold ModificationTime.ofLatest at hlookup
      by_cases hkind : e.kind = .notFound
      . simp only [hkind, if_true] at hlookup ⊢
        apply Observes.pure
        simp only [List.append_nil, true_and]
        exact ⟨hos, hlookup⟩
      . simp only [hkind, if_false] at hlookup ⊢
        apply Observes.pure
        simp only [List.append_nil, true_and]
        exact ⟨hos, hlookup⟩

end Checker

end FreshIndex
