import FreshIndex.Proofs.Containers.History
import FreshIndex.Proofs.View.Memory

/-!
This module contains the look-up of containers without a bound on its depth, as a relation, and the
proof that the bound is never met: what is being looked at is counted, and there is room for no more
than `View.maxDepth`. The index and the machine may answer anything, and differently each time.
-/

namespace FreshIndex

variable {σ : Type} {g : Gate σ} {v v' : View σ} {o next : Occurrence} {names : List String}
  {μ ν : Memory}

namespace View

def Pending.attempt : Pending → Attempt
  | .accessor usr => .accessor usr
  | .container usr _ => .container usr

/--
The names of the containers of `o` are found by looking at the occurrences of a chain, each of them
within the look at the one before.
-/
inductive Activates (g : Gate σ) :
    (o : Occurrence) → (v : View σ) → List Occurrence → List String → (v' : View σ) → Prop
  | done {o : Occurrence} {v v' : View σ} {names : List String}
    (hstep : step g o v = (.done names, v')) : Activates g o v [o] names v'
  | goOn {o next : Occurrence} {v v₁ v₂ v' : View σ} {pending : Pending} {chain : List Occurrence}
    {inner names : List String} (hstep : step g o v = (.goOn pending next, v₁))
    (hnext : Activates g next v₁ chain inner v₂)
    (hfinish : finish pending inner v₂ = (names, v')) : Activates g o v (o :: chain) names v'

/-- The views that one can have: the machine and the index may change between queries. -/
inductive Reachable (g : Gate σ) : View σ → Prop
  | opened (level : CheckLevel) (w : World σ) : Reachable g (ofLevel level w)
  | asked {τ : Type} {v : View σ} (query : Query τ) (hv : Reachable g v) :
    Reachable g (query.run g v).2
  | changed {v : View σ} (w : World σ) (hv : Reachable g v) : Reachable g { v with world := w }

end View

namespace Memory

/-- What a look at an occurrence makes of what is remembered. -/
inductive Steps (μ : Memory) : View.Step → Memory → Prop
  | known {usr : String} {names : List String} (hknown : μ.containerNames.get? usr = some names) :
    Steps μ (.done names) μ
  | outermost : Steps μ (.done []) μ
  | refused {name : String} : Steps μ (.done [name]) μ
  | undefined {usr name : String} (hnew : μ.containerNames.get? usr = none)
    (hadmits : μ.admits (.container usr) = true) : Steps μ (.done [name])
    { μ with containerNames := μ.containerNames.insert usr [name] }
  | goOn {pending : View.Pending} {next : Occurrence}
    (hnew : ∀ usr name, pending = .container usr name → μ.containerNames.get? usr = none)
    (hadmits : μ.admits pending.attempt = true) :
    Steps μ (.goOn pending next) (μ.enter pending.attempt)

/-- The same containers and accessors are being looked at. -/
structure AtSamePlace (μ ν : Memory) : Prop where
  accessors : μ.resolvingAccessors = ν.resolvingAccessors
  containers : μ.resolvingContainers = ν.resolvingContainers

theorem AtSamePlace.trans {μ ν ξ : Memory} (h : μ.AtSamePlace ν) (h' : ν.AtSamePlace ξ) :
    μ.AtSamePlace ξ where
  accessors := h.accessors.trans h'.accessors
  containers := h.containers.trans h'.containers

theorem length_le_of_steps_done (h : μ.Steps (.done names) ν)
    (hempty : ∀ usr, μ.containerNames.get? usr = none) : names.length ≤ 1 := by
  cases h with
  | known hknown => cases (hempty _).symm.trans hknown
  | outermost => simp
  | refused => simp
  | undefined => simp

theorem steps_goOn {pending : View.Pending} (h : μ.Steps (.goOn pending next) ν) :
    μ.admits pending.attempt = true ∧ ν = μ.enter pending.attempt := by
  cases h with
  | goOn _ hadmits => exact ⟨hadmits, rfl⟩

theorem containerNames_enter (μ : Memory) (a : Attempt) :
    (μ.enter a).containerNames = μ.containerNames := by
  cases a <;> rfl

theorem length_finish (pending : View.Pending) (names : List String) (μ : Memory) :
    (pending.finish names μ).1.length ≤ names.length + 1 := by
  cases pending with
  | accessor usr => simp [View.Pending.finish]
  | container usr name => simp [View.Pending.finish]

theorem atSamePlace_of_steps_done (h : μ.Steps (.done names) ν) : ν.AtSamePlace μ := by
  cases h <;> exact ⟨rfl, rfl⟩

theorem atSamePlace_finish {pending : View.Pending} (names : List String)
    (h : ν.AtSamePlace (μ.enter pending.attempt)) :
    (pending.finish names ν).2.AtSamePlace μ := by
  obtain ⟨haccessors, hcontainers⟩ := h
  cases pending with
  | accessor usr =>
    constructor
    . change ν.resolvingAccessors.erase usr = _
      rw [haccessors]
      apply List.erase_cons_head
    . exact hcontainers
  | container usr name =>
    constructor
    . exact haccessors
    . change ν.resolvingContainers.erase usr = _
      rw [hcontainers]
      apply List.erase_cons_head

end Memory

namespace View

section

variable {α : Type} {c : Prop} [Decidable c] {Q : α → View σ → Prop} {d : Diagnostic}
  {rest : StateM (View σ) α}

theorem ends_report (d : Diagnostic) (h : Ends (Remembers μ) rest Q) :
    Ends (Remembers μ) (inWorld (World.report d) >>= fun _ => rest) Q :=
  Ends.bind (KeepsMemory.inWorld μ) fun _ => h

theorem ends_report_if (h : Ends (Remembers μ) rest Q) :
    Ends (Remembers μ) (if c then inWorld (World.report d) >>= fun _ => rest else rest) Q := by
  split
  . exact ends_report d h
  . exact h

theorem ends_report_unless (h : Ends (Remembers μ) rest Q) :
    Ends (Remembers μ) (if c then rest else inWorld (World.report d) >>= fun _ => rest) Q := by
  split
  . exact h
  . exact ends_report d h

end

theorem ends_followAccessor (g : Gate σ) (o : Occurrence) :
    Ends (Remembers μ) (followAccessor g o) fun next v =>
      match next with
      | none => v.memory = μ
      | some _ => μ.admits (.accessor o.symbol.usr) = true ∧
        v.memory = μ.enter (.accessor o.symbol.usr) := by
  unfold followAccessor
  cases sortedRelations o Role.accessorOf with
  | nil => exact .pure fun v hv => hv
  | cons variableOf others =>
    apply ends_report_unless
    apply Ends.get_bind_eq
    intro v hv
    have hadmits : (hasRoom v && !v.resolvingAccessors.contains o.symbol.usr)
        = μ.admits (.accessor o.symbol.usr) := by
      rw [← hv]
      rfl
    rw [hadmits]
    cases μ.admits (.accessor o.symbol.usr) with
    | false =>
      simp only [Bool.false_eq_true, if_false]
      rintro v' rfl
      exact ends_report _ (.pure fun v hv => hv) v' hv
    | true =>
      simp only [if_true]
      refine Ends.bind (Q := fun _ => Remembers (μ.enterAccessor o.symbol.usr))
        (.set (by rw [← hv]; rfl)) fun _ => ?_
      refine Ends.bind ((onlyAsks_primaryDefinition g variableOf.symbol.usr).keepsMemory _) ?_
      intro found
      cases found with
      | some definition => exact .pure fun v hv => ⟨trivial, hv⟩
      | none =>
        refine Ends.bind (Q := fun _ => Remembers μ) (.modify ?_) fun _ => ?_
        . intro v hv
          rw [Remembers, ← Memory.leaveAccessor_enterAccessor μ o.symbol.usr, ← hv]
          rfl
        . exact .pure fun v hv => hv

theorem ends_finish (pending : Pending) (names : List String) :
    Ends (Remembers (σ := σ) μ) (finish pending names) fun names' v =>
      (names', v.memory) = pending.finish names μ := by
  rintro v rfl
  cases pending <;> rfl

theorem ends_followContainer (g : Gate σ) (o : Occurrence) :
    Ends (Remembers μ) (followContainer g o) fun s v => μ.Steps s v.memory := by
  have hdone {names : List String} (h : μ.Steps (.done names) μ) :
      Ends (Remembers (σ := σ) μ) (pure (Step.done names)) fun s v => μ.Steps s v.memory := by
    apply Ends.pure
    intro v hv
    rw [hv]
    exact h
  unfold followContainer
  dsimp only
  apply ends_report_if
  cases (sortedRelations o Role.childOf).find? (·.symbol.kind.isScope) with
  | none => exact hdone .outermost
  | some parent =>
    apply Ends.get_bind_eq
    intro v hv
    have hadmits : (hasRoom v && !v.resolvingContainers.contains parent.symbol.usr)
        = μ.admits (.container parent.symbol.usr) := by
      rw [← hv]
      rfl
    cases hknown : v.containerNames.get? parent.symbol.usr with
    | some names =>
      rintro v' rfl
      rw [← hv] at hdone ⊢
      exact hdone (.known hknown) v' rfl
    | none =>
      have hnew : μ.containerNames.get? parent.symbol.usr = none := by
        rw [← hv]
        exact hknown
      dsimp only
      rw [hadmits]
      cases hroom : μ.admits (.container parent.symbol.usr) with
      | false =>
        simp only [Bool.false_eq_true, if_false]
        rintro v' rfl
        exact ends_report _ (hdone .refused) v' hv
      | true =>
        simp only [if_true]
        refine Ends.bind (Q := fun _ => Remembers (μ.enterContainer parent.symbol.usr))
          (.set (by rw [← hv]; rfl)) fun _ => ?_
        refine Ends.bind ((onlyAsks_namedContainer g parent.symbol).keepsMemory _) fun named => ?_
        refine Ends.bind ((onlyAsks_anyDefinition g named.usr).keepsMemory _) ?_
        intro found
        cases found with
        | some definition =>
          apply Ends.pure
          intro v hv
          rw [hv]
          have hadmitted :
              μ.admits (Pending.container parent.symbol.usr named.name).attempt = true := hroom
          refine .goOn ?_ hadmitted
          rintro _ _ ⟨⟩
          exact hnew
        | none =>
          refine Ends.bind (ends_finish _ _) ?_
          intro names
          apply Ends.pure
          intro v hv
          rw [Pending.finish, List.nil_append, Memory.leaveContainer_enterContainer] at hv
          obtain ⟨hnames, hmemory⟩ := Prod.mk.inj hv
          rw [hnames, hmemory]
          exact .undefined hnew hroom

theorem ends_step (g : Gate σ) (o : Occurrence) :
    Ends (Remembers μ) (step g o) fun s v => μ.Steps s v.memory := by
  refine Ends.bind (ends_followAccessor g o) ?_
  intro next
  cases next with
  | none => apply ends_followContainer
  | some definition =>
    apply Ends.pure
    rintro v ⟨hadmits, hmemory⟩
    rw [hmemory]
    have hadmitted : μ.admits (Pending.accessor o.symbol.usr).attempt = true := hadmits
    exact .goOn (fun _ _ h => by cases h) hadmitted

theorem steps_of_step {s : Step} (h : step g o v = (s, v')) : v.memory.Steps s v'.memory := by
  have hsteps := ends_step (μ := v.memory) g o v rfl
  rw [h] at hsteps
  exact hsteps

theorem memory_of_finish {pending : Pending} {inner : List String}
    (h : finish pending inner v = (names, v')) :
    (names, v'.memory) = pending.finish inner v.memory := by
  have hfinish := ends_finish (μ := v.memory) pending inner v rfl
  rw [h] at hfinish
  exact hfinish

/-- A look-up is over before it has used up the depth that `v` leaves room for. -/
theorem activates_containersWithin (g : Gate σ) (depth : Nat) (v : View σ) (o : Occurrence)
    (hdepth : v.memory.size + depth = maxDepth) :
    ∃ chain, Activates g o v chain (containersWithin g (depth + 1) o v).1
        (containersWithin g (depth + 1) o v).2 ∧
      chain.length ≤ depth + 1 ∧
      (containersWithin g (depth + 1) o v).2.memory.AtSamePlace v.memory ∧
      ((∀ usr, v.containerNames.get? usr = none) →
        (containersWithin g (depth + 1) o v).1.length ≤ chain.length) := by
  rcases hstep : step g o v with ⟨s, v₁⟩
  have hsteps := steps_of_step hstep
  cases s with
  | done names =>
    have hwithin : containersWithin g (depth + 1) o v = (names, v₁) := by
      simp only [containersWithin, bind, StateT.bind, hstep]
      rfl
    rw [hwithin]
    refine ⟨[o], .done hstep, ?_, Memory.atSamePlace_of_steps_done hsteps, ?_⟩
    . simp
    . exact Memory.length_le_of_steps_done hsteps
  | goOn pending next =>
    obtain ⟨hadmits, hmemory⟩ := Memory.steps_goOn hsteps
    rw [Memory.admits_iff] at hadmits
    obtain ⟨depth, rfl⟩ : ∃ rest, depth = rest + 1 := ⟨depth - 1, by omega⟩
    have hinner : v₁.memory.size + depth = maxDepth := by
      rw [hmemory, Memory.size_enter]
      omega
    obtain ⟨chain, hchain, hlength, hplace, hnames⟩ :=
      activates_containersWithin g depth v₁ next hinner
    rcases hwithin₁ : containersWithin g (depth + 1) next v₁ with ⟨inner, v₂⟩
    rw [hwithin₁] at hchain hplace hnames
    rcases hfinish : finish pending inner v₂ with ⟨names, v'⟩
    have hwithin : containersWithin g (depth + 1 + 1) o v = (names, v') := by
      rw [containersWithin]
      simp only [bind, StateT.bind, hstep, hwithin₁, hfinish]
    have hfinished := memory_of_finish hfinish
    rw [hwithin]
    refine ⟨o :: chain, .goOn hstep hchain hfinish, ?_, ?_, ?_⟩
    . simp only [List.length_cons]
      omega
    . rw [hmemory] at hplace
      have h := Memory.atSamePlace_finish inner hplace
      rw [← hfinished] at h
      exact h
    . intro hempty
      have hempty₁ : ∀ usr, v₁.memory.containerNames.get? usr = none := by
        rw [hmemory, Memory.containerNames_enter]
        exact hempty
      have h := Memory.length_finish pending inner v₂.memory
      rw [← hfinished] at h
      have hinner := hnames hempty₁
      dsimp only at h hinner ⊢
      rw [List.length_cons]
      omega
termination_by depth

theorem Activates.unique {chain chain' : List Occurrence} {names' : List String} {v'' : View σ}
    (h : Activates g o v chain names v') (h' : Activates g o v chain' names' v'') :
    chain' = chain ∧ names' = names ∧ v'' = v' := by
  induction h generalizing chain' names' v'' with
  | done hstep =>
    cases h' with
    | done hstep' =>
      rw [hstep] at hstep'
      cases hstep'
      exact ⟨rfl, rfl, rfl⟩
    | goOn hstep' _ _ =>
      rw [hstep] at hstep'
      cases hstep'
  | goOn hstep _ hfinish ih =>
    cases h' with
    | done hstep' =>
      rw [hstep] at hstep'
      cases hstep'
    | goOn hstep' hnext' hfinish' =>
      rw [hstep] at hstep'
      cases hstep'
      obtain ⟨rfl, rfl, rfl⟩ := ih hnext'
      rw [hfinish] at hfinish'
      cases hfinish'
      exact ⟨rfl, rfl, rfl⟩

/-- Between queries nothing is being looked at. -/
theorem Reachable.atSamePlace (h : Reachable g v) : v.memory.AtSamePlace ⟨.empty, [], []⟩ := by
  induction h with
  | opened level w => exact ⟨rfl, rfl⟩
  | @asked τ v query _ ih =>
    cases query with
    | ofOccurrences query =>
      rcases onlyAsks_runOccurrences g query with ⟨o, rfl⟩ | hasks
      . have hsize : v.memory.size + maxDepth = maxDepth := by
          simp [Memory.size, ih.accessors, ih.containers]
        obtain ⟨_, _, _, hplace, _⟩ := activates_containersWithin g maxDepth v o hsize
        exact hplace.trans ih
      . have hmemory : (query.run g v).2.memory = v.memory := hasks.keepsMemory v.memory v rfl
        rw [← hmemory] at ih
        exact ih
    | ofFiles query =>
      have hmemory : (query.run (τ := τ) g v).2.memory = v.memory :=
        (onlyAsks_runFiles g query).keepsMemory v.memory v rfl
      rw [← hmemory] at ih
      exact ih
  | changed w _ ih => exact ih

/--
A look-up of containers ends: it looks at one occurrence within the other, one further one at each,
and at most at `maxDepth + 1`. A view that knows no container gives no more names than that.
-/
theorem containersOf_ends (hv : Reachable g v) (o : Occurrence) :
    ∃ chain, Activates g o v chain (containersOf g o v).1 (containersOf g o v).2 ∧
      (∀ chain' names v', Activates g o v chain' names v' →
        chain' = chain ∧ names = (containersOf g o v).1 ∧ v' = (containersOf g o v).2) ∧
      chain.length ≤ maxDepth + 1 ∧
      ((∀ usr, v.containerNames.get? usr = none) →
        (containersOf g o v).1.length ≤ maxDepth + 1) := by
  have hplace := hv.atSamePlace
  have hsize : v.memory.size + maxDepth = maxDepth := by
    simp [Memory.size, hplace.accessors, hplace.containers]
  obtain ⟨chain, hchain, hlength, _, hnames⟩ := activates_containersWithin g maxDepth v o hsize
  refine ⟨chain, hchain, fun chain' names v' h => hchain.unique h, hlength, ?_⟩
  intro hempty
  exact Nat.le_trans (hnames hempty) hlength

theorem containersOf_ends_circle :
    let a : Occurrence := .ofStruct "A" (some ("B", .childOf))
    let v : View Unit := ofLevel .deletedFiles ⟨(), []⟩
    Reachable Scene.circle.gate v ∧ (∀ usr, v.containerNames.get? usr = none) ∧
      ∃ chain v', Activates Scene.circle.gate a v chain ["B", "A", "B"] v' ∧
        chain.length ≤ maxDepth + 1 := by
  intro a v
  have hv : Reachable Scene.circle.gate v := .opened _ _
  obtain ⟨chain, hchain, _, hlength, _⟩ := containersOf_ends hv a
  have hnames : (containersOf Scene.circle.gate a v).1 = ["B", "A", "B"] := by decide +kernel
  rw [hnames] at hchain
  exact ⟨hv, Memo.get?_empty, chain, _, hchain, hlength⟩

end View

end FreshIndex
