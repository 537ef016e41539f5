import FreshIndex.Proofs.Containers.Activation

/-!
This module contains the proof that a look-up of containers leaves behind what it found: whatever is
being looked at when it begins is being looked at when it ends, and names that are kept are neither
taken away nor replaced. A container is given names only when the look at it ends, and while it is
being looked at, nothing within this look gives it names.
-/

namespace FreshIndex

variable {σ : Type} {g : Gate σ} {v v' : View σ} {o next : Occurrence} {names : List String}
  {μ ν ξ : Memory} {pending : View.Pending}

namespace Memory

/-- Names are only added, and to none of the containers that are being looked at. -/
structure Continues (μ ν : Memory) : Prop where
  place : ν.AtSamePlace μ
  known : μ.containerNames.GrowsTo ν.containerNames
  unnamed : ∀ usr ∈ μ.resolvingContainers,
    ν.containerNames.get? usr = μ.containerNames.get? usr

theorem Continues.refl : μ.Continues μ :=
  ⟨⟨rfl, rfl⟩, .same, fun _ _ => rfl⟩

theorem ne_of_admits {usr usr' : String} (hadmits : μ.admits (.container usr) = true)
    (hpending : usr' ∈ μ.resolvingContainers) : usr' ≠ usr := by
  rw [admits_iff] at hadmits
  rintro rfl
  exact hadmits.2 hpending

theorem continues_of_steps_done (h : μ.Steps (.done names) ν) : μ.Continues ν := by
  cases h with
  | known _ => exact .refl
  | outermost => exact .refl
  | refused => exact .refl
  | undefined hnew hadmits =>
    refine ⟨⟨rfl, rfl⟩, .insert .same hnew _, ?_⟩
    intro usr' hpending
    rw [Memo.get?_insert, if_neg (ne_of_admits hadmits hpending)]

theorem continues_finish (hsteps : μ.Steps (.goOn pending next) ν) (h : ν.Continues ξ)
    (names : List String) : μ.Continues (pending.finish names ξ).2 := by
  cases hsteps with
  | goOn hnew hadmits =>
    obtain ⟨hplace, hknown, hunnamed⟩ := h
    rw [containerNames_enter] at hknown hunnamed
    refine ⟨atSamePlace_finish names hplace, ?_, ?_⟩
    . cases pending with
      | accessor usr => exact hknown
      | container usr name =>
        -- The look at the container is open until now, so it has no names yet.
        have hopen : ξ.containerNames.get? usr = none := by
          rw [hunnamed usr List.mem_cons_self]
          exact hnew usr name rfl
        exact hknown.insert hopen _
    . intro usr' hpending
      cases pending with
      | accessor usr => exact hunnamed usr' hpending
      | container usr name =>
        change (ξ.containerNames.insert usr _).get? usr' = _
        rw [Memo.get?_insert, if_neg (ne_of_admits hadmits hpending)]
        exact hunnamed usr' (List.mem_cons_of_mem _ hpending)

end Memory

namespace View

/-- What is kept of containers and of files grows, or stays as it is. -/
structure GrowsTo (v v' : View σ) : Prop where
  containerNames : v.containerNames.GrowsTo v'.containerNames
  checker : v.checker.GrowsTo v'.checker

/-- What a view becomes: it is asked, and between queries the machine and the index may change. -/
inductive Becomes (g : Gate σ) (v : View σ) : View σ → Prop
  | same : Becomes g v v
  | asked {τ : Type} {v' : View σ} (query : Query τ) (h : Becomes g v v') :
    Becomes g v (query.run g v').2
  | changed {v' : View σ} (w : World σ) (h : Becomes g v v') : Becomes g v { v' with world := w }

theorem GrowsTo.trans {v'' : View σ} (h : v.GrowsTo v') (h' : v'.GrowsTo v'') : v.GrowsTo v'' where
  containerNames := h.containerNames.trans h'.containerNames
  checker := h.checker.trans h'.checker

theorem Grows.of_eq {α : Type} {act : StateM (View σ) α} {a : α} (h : Grows act)
    (hact : act v = (a, v')) : v.checker.GrowsTo v'.checker := by
  have hgrows := h v.checker v .refl
  rw [hact] at hgrows
  exact hgrows

section

variable {α : Type} {c : Prop} [Decidable c] {d : Diagnostic} {rest : StateM (View σ) α}

theorem grows_report_if (h : Grows rest) :
    Grows (if c then inWorld (World.report d) >>= fun _ => rest else rest) := by
  split
  . exact .bind (.inChecker .inWorld) fun _ => h
  . exact h

theorem grows_report_unless (h : Grows rest) :
    Grows (if c then rest else inWorld (World.report d) >>= fun _ => rest) := by
  split
  . exact h
  . exact .bind (.inChecker .inWorld) fun _ => h

end

theorem grows_followAccessor (g : Gate σ) (o : Occurrence) : Grows (followAccessor g o) := by
  unfold followAccessor
  cases sortedRelations o Role.accessorOf with
  | nil => exact .pure
  | cons variableOf others =>
    apply grows_report_unless
    intro k
    apply Ends.get_bind_eq
    intro v hv
    split
    . refine Ends.bind (Q := fun _ v => k.GrowsTo v.checker) (.set hv) fun _ => ?_
      refine Ends.bind ((onlyAsks_primaryDefinition g variableOf.symbol.usr).grows k) ?_
      intro found
      cases found with
      | some definition => exact Grows.pure k
      | none => exact Ends.bind (.modify fun v hv => hv) fun _ => Grows.pure k
    . rintro _ rfl
      exact Grows.bind (.inChecker .inWorld) (fun _ => .pure) k _ hv

theorem grows_finish (pending : Pending) (names : List String) :
    Grows (finish (σ := σ) pending names) := by
  intro k v hv
  cases pending <;> exact hv

theorem grows_followContainer (g : Gate σ) (o : Occurrence) : Grows (followContainer g o) := by
  unfold followContainer
  dsimp only
  apply grows_report_if
  cases (sortedRelations o Role.childOf).find? (·.symbol.kind.isScope) with
  | none => exact .pure
  | some parent =>
    intro k
    apply Ends.get_bind_eq
    intro v hv
    cases v.containerNames.get? parent.symbol.usr with
    | some names =>
      rintro _ rfl
      exact hv
    | none =>
      dsimp only
      split
      . refine Ends.bind (Q := fun _ v => k.GrowsTo v.checker) (.set hv) fun _ => ?_
        refine Ends.bind ((onlyAsks_namedContainer g parent.symbol).grows k) fun named => ?_
        refine Ends.bind ((onlyAsks_anyDefinition g named.usr).grows k) ?_
        intro found
        cases found with
        | some definition => exact Grows.pure k
        | none => exact Grows.bind (grows_finish _ _) (fun _ => .pure) k
      . rintro _ rfl
        exact Grows.bind (.inChecker .inWorld) (fun _ => .pure) k _ hv

theorem grows_step (g : Gate σ) (o : Occurrence) : Grows (step g o) := by
  apply Grows.bind (grows_followAccessor g o)
  intro next
  cases next with
  | none => apply grows_followContainer
  | some definition => exact .pure

namespace Activates

variable {chain : List Occurrence}

theorem continues (h : Activates g o v chain names v') : v.memory.Continues v'.memory := by
  induction h with
  | done hstep => exact Memory.continues_of_steps_done (steps_of_step hstep)
  | @goOn _ _ _ _ _ _ _ _ inner _ hstep _ hfinish ih =>
    have hcontinues := Memory.continues_finish (steps_of_step hstep) ih inner
    rw [← memory_of_finish hfinish] at hcontinues
    exact hcontinues

theorem checker_growsTo (h : Activates g o v chain names v') :
    v.checker.GrowsTo v'.checker := by
  induction h with
  | done hstep => exact (grows_step _ _).of_eq hstep
  | goOn hstep _ hfinish ih =>
    have hentered := (grows_step _ _).of_eq hstep
    exact (hentered.trans ih).trans ((grows_finish _ _).of_eq hfinish)

theorem growsTo (h : Activates g o v chain names v') : v.GrowsTo v' :=
  ⟨h.continues.known, h.checker_growsTo⟩

end Activates

theorem Reachable.activates (h : Reachable g v) (o : Occurrence) :
    ∃ chain, Activates g o v chain (containersOf g o v).1 (containersOf g o v).2 := by
  have hplace := h.atSamePlace
  have hsize : v.memory.size + maxDepth = maxDepth := by
    simp [Memory.size, hplace.accessors, hplace.containers]
  obtain ⟨chain, hchain, _⟩ := activates_containersWithin g maxDepth v o hsize
  exact ⟨chain, hchain⟩

theorem OnlyAsks.growsTo {α : Type} {act : StateM (View σ) α} (h : OnlyAsks act) (v : View σ) :
    v.GrowsTo (act v).2 := by
  refine ⟨?_, h.grows v.checker v .refl⟩
  have hmemory : (act v).2.memory = v.memory := h.keepsMemory v.memory v rfl
  have hnames : (act v).2.containerNames = v.containerNames :=
    congrArg Memory.containerNames hmemory
  rw [hnames]
  exact .same

theorem Reachable.growsTo_run {τ : Type} (h : Reachable g v) (query : Query τ) :
    v.GrowsTo (query.run g v).2 := by
  cases query with
  | ofFiles query => exact (onlyAsks_runFiles g query).growsTo v
  | ofOccurrences query =>
    rcases onlyAsks_runOccurrences g query with ⟨o, rfl⟩ | hasks
    . obtain ⟨_, hchain⟩ := h.activates o
      exact hchain.growsTo
    . exact hasks.growsTo v

theorem Becomes.reachable (h : Becomes g v v') (hv : Reachable g v) : Reachable g v' := by
  induction h with
  | same => exact hv
  | asked query _ ih => exact ih.asked query
  | changed w _ ih => exact ih.changed w

theorem Becomes.growsTo (h : Becomes g v v') (hv : Reachable g v) : v.GrowsTo v' := by
  induction h with
  | same => exact ⟨.same, .refl⟩
  | asked query hbefore ih => exact ih.trans ((hbefore.reachable hv).growsTo_run query)
  | changed w _ ih => exact ⟨ih.containerNames, ih.checker⟩

/--
Between queries nothing is being looked at. A look-up of containers, and each look-up within it,
ends with the same containers and accessors being looked at as when it began. What a view keeps only
grows, from one query to the next and during each look-up, so that what is kept under a key is found
there ever after.
-/
theorem caches_onlyGrow (g : Gate σ) :
    (∀ v, Reachable g v → v.resolvingContainers = [] ∧ v.resolvingAccessors = []) ∧
    (∀ v, Reachable g v → ∀ o, ∃ chain,
      Activates g o v chain (containersOf g o v).1 (containersOf g o v).2) ∧
    (∀ o v chain names v', Activates g o v chain names v' →
      v'.resolvingContainers = v.resolvingContainers ∧
      v'.resolvingAccessors = v.resolvingAccessors ∧ v.GrowsTo v') ∧
    (∀ v v', Reachable g v → Becomes g v v' → v.GrowsTo v') ∧
    ∀ v v' : View σ, v.GrowsTo v' →
      (∀ usr names, v.containerNames.get? usr = some names →
        v'.containerNames.get? usr = some names) ∧
      (∀ uri time, v.checker.modificationTimes.get? uri = some time →
        v'.checker.modificationTimes.get? uri = some time) ∧
      (∀ uri answer, v.checker.existence.get? uri = some answer →
        v'.checker.existence.get? uri = some answer) ∧
      ∀ uri answer, v.checker.unsavedEdits.get? uri = some answer →
        v'.checker.unsavedEdits.get? uri = some answer := by
  refine ⟨?_, ?_, ?_, ?_, ?_⟩
  . intro v hv
    have hplace := hv.atSamePlace
    exact ⟨hplace.containers, hplace.accessors⟩
  . intro v hv o
    exact hv.activates o
  . intro o v chain names v' h
    have hplace := h.continues.place
    exact ⟨hplace.containers, hplace.accessors, h.growsTo⟩
  . intro v v' hv h
    exact h.growsTo hv
  . intro v v' h
    refine ⟨?_, ?_, ?_, ?_⟩
    . exact fun _ _ => h.containerNames.get?_eq
    . exact fun _ _ => h.checker.modificationTimes.get?_eq
    . exact fun _ _ => h.checker.existence.get?_eq
    . exact fun _ _ => h.checker.unsavedEdits.get?_eq

end View

end FreshIndex
