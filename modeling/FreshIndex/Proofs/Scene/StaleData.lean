import FreshIndex.Proofs.Scene.Query

/-!
This module contains the proof that what is out of date in an index has no influence on what a view
answers and reports.
-/

namespace FreshIndex

variable {σ τ : Type}

namespace Scene

/-- The scene without everything in the index that is out of date. -/
def freshPart (S : Scene) : Scene :=
  { S with
    lists :=
      { S.lists with
        occurrences := S.fresh S.lists.occurrences
        unitTests := S.lists.unitTests.filter fun test => S.isFresh test.1 } }

/-! What is up to date depends on the level and the machine alone. -/

@[simp]
theorem freshPart_fresh (S : Scene) (os : List Occurrence) : S.freshPart.fresh os = S.fresh os :=
  rfl

@[simp]
theorem freshPart_faultsIn (S : Scene) (os : List Occurrence) :
    S.freshPart.faultsIn os = S.faultsIn os :=
  rfl

theorem fresh_filter (S : Scene) (p : Occurrence → Bool) (os : List Occurrence) :
    S.fresh (os.filter p) = (S.fresh os).filter p := by
  unfold fresh
  rw [List.filter_filter, List.filter_filter]
  apply List.filter_congr
  intro o _
  rw [Bool.and_comm]

@[simp]
theorem fresh_filter_fresh (S : Scene) (p : Occurrence → Bool) (os : List Occurrence) :
    S.fresh ((S.fresh os).filter p) = S.fresh (os.filter p) := by
  rw [fresh_filter, fresh_filter]
  congr 1
  unfold fresh
  rw [List.filter_filter]
  simp only [Bool.and_self]

@[simp]
theorem freshPart_occurrencesOf (S : Scene) (usr : String) (roles : Roles) :
    S.freshPart.occurrencesOf usr roles = S.occurrencesOf usr roles := by
  unfold occurrencesOf listedOf
  apply fresh_filter_fresh

@[simp]
theorem freshPart_relatedTo (S : Scene) (usr : String) (roles : Roles) :
    S.freshPart.relatedTo usr roles = S.relatedTo usr roles := by
  unfold relatedTo
  apply fresh_filter_fresh

theorem fresh_map_filter (S : Scene) (p : Occurrence × String → Bool)
    (tests : List (Occurrence × String)) :
    S.fresh (((tests.filter fun test => S.isFresh test.1).filter p).map (·.1))
      =
    S.fresh ((tests.filter p).map (·.1)) := by
  unfold fresh
  simp only [List.filter_map, List.filter_filter]
  congr 1
  apply List.filter_congr
  intro test _
  simp only [Function.comp_apply]
  cases S.isFresh test.1 with
  | true => simp only [Bool.and_true]
  | false => simp only [Bool.false_and]

@[simp]
theorem freshPart_unitTests (S : Scene) : S.freshPart.unitTests = S.unitTests := by
  have hall (tests : List (Occurrence × String)) : (tests.filter fun _ => true) = tests :=
    List.filter_eq_self.mpr fun _ _ => rfl
  have h := S.fresh_map_filter (fun _ => true) S.lists.unitTests
  rw [hall, hall] at h
  exact h

@[simp]
theorem freshPart_unitTestsFor (S : Scene) (paths : List String) :
    S.freshPart.unitTestsFor paths = S.unitTestsFor paths := by
  unfold unitTestsFor
  apply fresh_map_filter

@[simp]
theorem freshPart_definitionsOrDeclarations (S : Scene) (usr : String) :
    S.freshPart.definitionsOrDeclarations usr = S.definitionsOrDeclarations usr := by
  unfold definitionsOrDeclarations
  simp only [freshPart_occurrencesOf]

@[simp]
theorem freshPart_primaryDefinition (S : Scene) (usr : String) :
    S.freshPart.primaryDefinition usr = S.primaryDefinition usr := by
  unfold primaryDefinition
  rw [freshPart_definitionsOrDeclarations]

@[simp]
theorem freshPart_primaryReports (S : Scene) (usr : String) :
    S.freshPart.primaryReports usr = S.primaryReports usr := by
  unfold primaryReports
  simp only [freshPart_definitionsOrDeclarations, freshPart_primaryDefinition, freshPart_faultsIn]

theorem freshPart_visit (S : Scene) (visitor : Occurrence → τ → Flow × τ) (os : List Occurrence)
    (t : τ) : S.freshPart.visit visitor os t = S.visit visitor os t := by
  induction os generalizing t with
  | nil => rfl
  | cons o rest ih =>
    unfold visit
    simp only [ih]
    rfl

theorem freshPart_visit_filter (S : Scene) (visitor : Occurrence → τ → Flow × τ)
    (p : Occurrence → Bool) (t : τ) :
    S.freshPart.visit visitor (S.freshPart.lists.occurrences.filter p) t
      =
    S.visit visitor (S.lists.occurrences.filter p) t := by
  -- Neither side is the part of the other that is up to date, but these parts are the same.
  rw [freshPart_visit, ← visit_fresh, ← S.visit_fresh visitor (S.lists.occurrences.filter p)]
  congr 1
  apply fresh_filter_fresh

/-! The look-up of containers asks for nothing but the above. -/

@[simp]
theorem freshPart_anyDefinition (S : Scene) (usr : String) :
    S.freshPart.anyDefinition usr = S.anyDefinition usr := by
  unfold anyDefinition
  rw [freshPart_occurrencesOf]

theorem freshPart_followAccessor (S : Scene) (μ : Memory) (o : Occurrence) :
    S.freshPart.followAccessor μ o = S.followAccessor μ o := by
  unfold followAccessor followVariable
  simp only [freshPart_primaryDefinition, freshPart_primaryReports]

theorem freshPart_enterContainer (S : Scene) (μ : Memory) (usr : String) (container : Symbol) :
    S.freshPart.enterContainer μ usr container = S.enterContainer μ usr container := by
  unfold enterContainer namedContainer namedReports anyReports
  simp only [freshPart_relatedTo, freshPart_anyDefinition, freshPart_faultsIn]

theorem freshPart_step (S : Scene) (μ : Memory) (o : Occurrence) :
    S.freshPart.step μ o = S.step μ o := by
  unfold step followContainer
  rw [freshPart_followAccessor]
  have hparent : ∀ μ' parent,
      S.freshPart.enterParent μ' o.symbol.usr parent = S.enterParent μ' o.symbol.usr parent := by
    intro μ' parent
    cases parent with
    | none => rfl
    | some parent => exact S.freshPart_enterContainer μ' o.symbol.usr parent.symbol
  simp only [hparent]

theorem freshPart_namesWithin (S : Scene) (depth : Nat) (μ : Memory) (o : Occurrence) :
    S.freshPart.namesWithin depth μ o = S.namesWithin depth μ o := by
  induction depth generalizing μ o with
  | zero => rfl
  | succ depth ih =>
    unfold namesWithin
    rw [freshPart_step]
    simp only [ih]

theorem freshPart_answerOccurrences (S : Scene) (μ : Memory) (query : OccurrenceQuery τ) :
    S.freshPart.answerOccurrences μ query = S.answerOccurrences μ query := by
  cases query with
  | eachOccurrence usr roles visitor t =>
    have h := S.freshPart_visit_filter visitor (ListedIndex.isOf usr roles) t
    simp only [answerOccurrences, listedOf, h]
  | eachContaining pattern options visitor t =>
    simp only [answerOccurrences, listedContaining, freshPart_visit_filter]
  | eachNamed name visitor t =>
    simp only [answerOccurrences, listedNamed, freshPart_visit_filter]
  | containersOf o => simp only [answerOccurrences, freshPart_namesWithin]
  | occurrencesOf | relatedTo | unitTests | unitTestsFor | definitionsOrDeclarations
    | primaryDefinition => simp [answerOccurrences]

theorem freshPart_replies (S : Scene) (μ : Memory) (queries : List (OccurrenceQuery τ)) :
    S.freshPart.replies μ (queries.map .ofOccurrences)
      =
    S.replies μ (queries.map .ofOccurrences) := by
  induction queries generalizing μ with
  | nil => rfl
  | cons query rest ih =>
    rw [List.map_cons]
    unfold replies
    simp only [answer, freshPart_answerOccurrences, ih]

end Scene

/--
A session over an index is answered and reported on, query by query, as the same session over the
index from which everything that is out of date has been removed.
-/
theorem View.replies_freshPart (S : Scene) (s : σ) (queries : List (OccurrenceQuery τ)) :
    View.replies S.gate (queries.map .ofOccurrences) (View.ofLevel S.level ⟨s, []⟩)
      =
    View.replies S.freshPart.gate (queries.map .ofOccurrences) (View.ofLevel S.level ⟨s, []⟩) := by
  have hpart := View.replies_eq (View.within_ofLevel S.freshPart s) (queries.map .ofOccurrences)
  rw [View.replies_eq (View.within_ofLevel S s), ← S.freshPart_replies]
  exact hpart.symm

end FreshIndex
