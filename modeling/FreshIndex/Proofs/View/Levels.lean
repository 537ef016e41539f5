import Mathlib.Data.List.Basic
import FreshIndex.Proofs.FileTree.Chain
import FreshIndex.Proofs.Scene.View

/-!
This module contains the proof that a stricter level shows less. Between the levels that look at the
date of a file and the one that asks whether it is there, this is so for files whose date can be
found out, and of which the machine says that they are there if their links end.
-/

namespace FreshIndex

open Text

variable {σ : Type}

namespace Snapshot

variable {m : Snapshot} {l : Location}

/-- The path under which the file of a location is looked for. -/
def pathOf (l : Location) : FilePath :=
  (FilePath.ofText l.path).normalize

/-- The date of the file can be found out, and if its path resolves, the file is said to exist. -/
structure IsClear (m : Snapshot) (l : Location) : Prop where
  dated : (m.modificationTime (.ofPathText l.path)).isOk = true
  found : m.Resolves (pathOf l) → m.pathExists (pathOf l) = true

theorem judge_modifiedFiles (h : (m.judge .inMemoryModifiedFiles l).1 = true) :
    (m.judge .modifiedFiles l).1 = true := by
  cases hedits : m.hasUnsavedEdits (.ofPathText l.path) with
  | true => simp [judge, CheckLevel.asksEditor, hedits] at h
  | false => simpa [judge, CheckLevel.asksEditor, hedits] using h

theorem resolves_of_judge (h : (m.judge .modifiedFiles l).1 = true)
    (hdated : (m.modificationTime (.ofPathText l.path)).isOk = true) : m.Resolves (pathOf l) := by
  have hpath : (DocumentUri.ofPathText l.path).filePath? = some (pathOf l) := rfl
  cases hlatest : m.latestInChain (pathOf l) Checker.maxHops (pathOf l) with
  | ok latest => exact resolves_of_latestInChain hlatest
  | error e =>
    have hfound : m.modificationTime (.ofPathText l.path)
        = if e.kind = .notFound then .ok .fileDoesNotExist else .error e := by
      simp only [modificationTime, hpath, hlatest]
    by_cases hkind : e.kind = .notFound
    . rw [if_pos hkind] at hfound
      simp [judge, CheckLevel.asksEditor, hfound] at h
    . rw [hfound, if_neg hkind] at hdated
      cases hdated

theorem judge_deletedFiles (h : (m.judge .modifiedFiles l).1 = true) (hclear : m.IsClear l) :
    (m.judge .deletedFiles l).1 = true :=
  hclear.found (resolves_of_judge h hclear.dated)

end Snapshot

namespace FileTree

variable {t : FileTree} {directory : Place} {edits : DocumentUri → Bool} {l : Location}

theorem isClear_machine
    (hdated : ((t.machine directory edits).modificationTime (.ofPathText l.path)).isOk = true)
    (hlinks : t.resolve directory true (Snapshot.pathOf l) ≠ .error .tooManyLinks) :
    (t.machine directory edits).IsClear l where
  dated := hdated
  found hresolves := (pathExists_of_resolves hresolves).resolve_right hlinks

end FileTree

namespace View

theorem occurrencesOf_ofLevel (m : Snapshot) (index : RawIndex σ) (level : CheckLevel)
    (w : World σ) (usr : String) (roles : Roles) :
    (occurrencesOf ⟨.ofSnapshot fun _ => m, index⟩ usr roles (ofLevel level w)).1
      = (index.occurrencesOf usr roles w).1.filter fun o => (m.judge level o.location).1 := by
  let S : Scene := ⟨level, m, .empty⟩
  let g : Gate σ := ⟨.ofSnapshot fun _ => m, index⟩
  let w' := (index.occurrencesOf usr roles w).2
  have hwithin : Within S ⟨.empty, [], []⟩ w'.diagnostics (ofLevel level w') :=
    ⟨⟨rfl, Checker.accurate_ofLevel m level, rfl⟩, rfl⟩
  obtain ⟨hanswer, _⟩ := leads_retainFresh S (index.occurrencesOf usr roles w).1 _ hwithin
  have hsame (os : List Occurrence) : retainFresh S.gate os = retainFresh g os := by
    apply retainFresh_congr
    rfl
  rw [hsame] at hanswer
  exact hanswer

/--
On one machine, what is up to date at a level is so at the next more lenient one. A file whose date
cannot be found out is taken for up to date, with a fault; it may be gone. A tree of files is clear
about all others, but for those behind more links than the file system follows.
-/
theorem levels_nested (m : Snapshot) (index : RawIndex σ) (w : World σ) :
    let g : Gate σ := ⟨.ofSnapshot fun _ => m, index⟩
    let judged (level : CheckLevel) (l : Location) :=
      Checker.isFresh g.host l ⟨.ofLevel level, w⟩
    let listed (level : CheckLevel) (usr : String) (roles : Roles) :=
      (occurrencesOf g usr roles (ofLevel level w)).1
    (∀ l, (judged .inMemoryModifiedFiles l).1 = true → (judged .modifiedFiles l).1 = true) ∧
      (∀ l, (judged .modifiedFiles l).1 = true → m.IsClear l →
        (judged .deletedFiles l).1 = true) ∧
      (∀ l e, m.modificationTime (.ofPathText l.path) = .error e →
        (judged .modifiedFiles l).1 = true ∧
          (judged .modifiedFiles l).2.world.diagnostics
            = w.diagnostics ++ [.locationUndecided l.path e]) ∧
      (∀ usr roles,
        (listed .inMemoryModifiedFiles usr roles).Sublist (listed .modifiedFiles usr roles)) ∧
      (∀ usr roles (clear : Occurrence → Bool), (∀ o, clear o = true → m.IsClear o.location) →
        ((listed .modifiedFiles usr roles).filter clear).Sublist
          (listed .deletedFiles usr roles)) ∧
      ∀ (t : FileTree) (directory : Place) (edits : DocumentUri → Bool),
        m = t.machine directory edits → ∀ l,
          (m.modificationTime (.ofPathText l.path)).isOk = true →
          t.resolve directory true (Snapshot.pathOf l) ≠ .error .tooManyLinks → m.IsClear l := by
  dsimp only
  refine ⟨?_, ?_, ?_, ?_, ?_, ?_⟩
  . intro l h
    rw [(Checker.isFresh_ofLevel _ _ w l).1] at h ⊢
    exact Snapshot.judge_modifiedFiles h
  . intro l h hclear
    rw [(Checker.isFresh_ofLevel _ _ w l).1] at h ⊢
    exact Snapshot.judge_deletedFiles h hclear
  . intro l e htime
    obtain ⟨hanswer, htold⟩ := Checker.isFresh_ofLevel m .modifiedFiles w l
    rw [hanswer, htold]
    simp [Snapshot.judge, CheckLevel.asksEditor, htime]
  . intro usr roles
    rw [occurrencesOf_ofLevel, occurrencesOf_ofLevel]
    apply List.monotone_filter_right
    intro o h
    exact Snapshot.judge_modifiedFiles h
  . intro usr roles clear hclear
    rw [occurrencesOf_ofLevel, occurrencesOf_ofLevel, List.filter_filter]
    apply List.monotone_filter_right
    intro o h
    rw [Bool.and_eq_true] at h
    exact Snapshot.judge_deletedFiles h.2 (hclear o h.1)
  . rintro t directory edits rfl l hdated hlinks
    exact FileTree.isClear_machine hdated hlinks

end View

namespace FileTree

def loop : FileTree :=
  ⟨⟨0⟩, [([octets "a"], ⟨.link (.ofText "b"), ⟨0⟩⟩), ([octets "b"], ⟨.link (.ofText "a"), ⟨0⟩⟩)]⟩

def roundabout : FileTree :=
  ⟨⟨0⟩, [([octets "d"], ⟨.link (.ofText "."), ⟨0⟩⟩), ([octets "x"], ⟨.link (.ofText "f"), ⟨0⟩⟩),
    ([octets "f"], ⟨.file, ⟨0⟩⟩)]⟩

/-- A path over as many links as the file system follows, and a last one that is one more. -/
def longWay : String :=
  "/" ++ String.join (List.replicate maxLinks "d/") ++ "x"

/-- What a new checker says of a path, and what it reports. -/
def judged (t : FileTree) (level : CheckLevel) (path : String) : Bool × List Diagnostic :=
  let (isFresh, c) :=
    Checker.isFresh (σ := Unit) (.ofSnapshot fun _ => t.machine [] fun _ => false)
      ⟨path, 1, 1, false, ⟨0⟩⟩ ⟨.ofLevel level, ⟨(), []⟩⟩
  (isFresh, c.world.diagnostics)

/-- Files that do not exist for the file system are up to date, with a fault and without one. -/
theorem modifiedFiles_not_deletedFiles :
    (loop.judged .modifiedFiles "/a").1 = true ∧ loop.judged .deletedFiles "/a" = (false, []) ∧
      roundabout.judged .modifiedFiles longWay = (true, []) ∧
      roundabout.judged .deletedFiles longWay = (false, []) := by
  refine ⟨?_, ?_, ?_, ?_⟩
  . decide +kernel
  . decide +kernel
  . decide +kernel
  . decide +kernel

end FileTree

end FreshIndex
