import FreshIndex.Proofs.Scene.View

/-!
This module contains the look-up of containers as a plain function of the scene and of what the view
keeps, and the proof that a view computes it.
-/

namespace FreshIndex

variable {σ : Type} {ds : List Diagnostic}

namespace Memory

def hasRoom (μ : Memory) : Bool :=
  μ.resolvingAccessors.length + μ.resolvingContainers.length < View.maxDepth

def admitsAccessor (μ : Memory) (usr : String) : Bool :=
  μ.hasRoom && !μ.resolvingAccessors.contains usr

def admitsContainer (μ : Memory) (usr : String) : Bool :=
  μ.hasRoom && !μ.resolvingContainers.contains usr

def enterAccessor (μ : Memory) (usr : String) : Memory :=
  { μ with resolvingAccessors := usr :: μ.resolvingAccessors }

def enterContainer (μ : Memory) (usr : String) : Memory :=
  { μ with resolvingContainers := usr :: μ.resolvingContainers }

def leaveAccessor (μ : Memory) (usr : String) : Memory :=
  { μ with resolvingAccessors := μ.resolvingAccessors.erase usr }

def leaveContainer (μ : Memory) (usr : String) (names : List String) : Memory :=
  { μ with
    resolvingContainers := μ.resolvingContainers.erase usr
    containerNames := μ.containerNames.insert usr names }

@[simp]
theorem leaveAccessor_enterAccessor (μ : Memory) (usr : String) :
    (μ.enterAccessor usr).leaveAccessor usr = μ := by
  simp [enterAccessor, leaveAccessor]

@[simp]
theorem leaveContainer_enterContainer (μ : Memory) (usr : String) (names : List String) :
    (μ.enterContainer usr).leaveContainer usr names
      =
    { μ with containerNames := μ.containerNames.insert usr names } := by
  simp [enterContainer, leaveContainer]

end Memory

namespace Scene

def namedContainer (S : Scene) (container : Symbol) : Symbol :=
  if container.kind = .extensionType then
    match S.relatedTo container.usr Role.extendedBy with
    | extended :: _ => extended.symbol
    | [] => container
  else
    container

def namedReports (S : Scene) (container : Symbol) : List Diagnostic :=
  if container.kind = .extensionType then
    S.faultsIn (S.relatedTo container.usr Role.extendedBy)
  else
    []

def anyDefinition (S : Scene) (usr : String) : Option Occurrence :=
  (S.occurrencesOf usr (.union Role.definition Role.declaration)).head?

def anyReports (S : Scene) (usr : String) : List Diagnostic :=
  S.faultsIn (S.anyDefinition usr).toList

def followVariable (S : Scene) (μ : Memory) (accessor variableUsr : String) :
    Option Occurrence × Memory × List Diagnostic :=
  if μ.admitsAccessor accessor then
    match S.primaryDefinition variableUsr with
    | some definition =>
      (some definition, μ.enterAccessor accessor, S.primaryReports variableUsr)
    | none => (none, μ, S.primaryReports variableUsr)
  else
    (none, μ, [.endlessAccessors accessor])

def followAccessor (S : Scene) (μ : Memory) (o : Occurrence) :
    Option Occurrence × Memory × List Diagnostic :=
  match View.sortedRelations o Role.accessorOf with
  | [] => (none, μ, [])
  | variableOf :: others =>
    let (definition, μ', reported) := S.followVariable μ o.symbol.usr variableOf.symbol.usr
    (definition, μ', (if others.isEmpty then [] else [.severalVariables]) ++ reported)

def enterContainer (S : Scene) (μ : Memory) (usr : String) (container : Symbol) :
    View.Step × Memory × List Diagnostic :=
  match μ.containerNames.get? container.usr with
  | some names => (.done names, μ, [])
  | none =>
    if μ.admitsContainer container.usr then
      let named := S.namedContainer container
      let reported := S.namedReports container ++ S.anyReports named.usr
      match S.anyDefinition named.usr with
      | some definition =>
        (.goOn (.container container.usr named.name) definition,
          μ.enterContainer container.usr, reported)
      | none =>
        (.done [named.name],
          { μ with containerNames := μ.containerNames.insert container.usr [named.name] },
          reported)
    else
      (.done [container.name], μ, [.endlessContainers usr container.name])

def enterParent (S : Scene) (μ : Memory) (usr : String) :
    Option Relation → View.Step × Memory × List Diagnostic
  | none => (.done [], μ, [])
  | some parent => S.enterContainer μ usr parent.symbol

def followContainer (S : Scene) (μ : Memory) (o : Occurrence) :
    View.Step × Memory × List Diagnostic :=
  let parents := View.sortedRelations o Role.childOf
  let (step, μ', reported) :=
    S.enterParent μ o.symbol.usr (parents.find? (·.symbol.kind.isScope))
  (step, μ', (if 1 < parents.length then [.severalParents] else []) ++ reported)

def step (S : Scene) (μ : Memory) (o : Occurrence) : View.Step × Memory × List Diagnostic :=
  match S.followAccessor μ o with
  | (some definition, μ', reported) => (.goOn (.accessor o.symbol.usr) definition, μ', reported)
  | (none, μ', reported) =>
    let (step, μ'', more) := S.followContainer μ' o
    (step, μ'', reported ++ more)

end Scene

def View.Pending.finish : View.Pending → List String → Memory → List String × Memory
  | .accessor usr, names, μ => (names, μ.leaveAccessor usr)
  | .container usr name, names, μ => (names ++ [name], μ.leaveContainer usr (names ++ [name]))

def Scene.namesWithin (S : Scene) :
    (depth : Nat) → Memory → Occurrence → List String × Memory × List Diagnostic
  | 0, μ, _ => ([], μ, [])
  | depth + 1, μ, o =>
    match S.step μ o with
    | (.done names, μ', reported) => (names, μ', reported)
    | (.goOn pending next, μ', reported) =>
      let (inner, μ'', more) := S.namesWithin depth μ' next
      let (names, μ''') := pending.finish inner μ''
      (names, μ''', reported ++ more)

namespace View

variable {S : Scene} {μ : Memory}

theorem leads_report_if {c : Prop} [Decidable c] {α : Type} {a : α} {μ' : Memory}
    {rest : StateM (View σ) α} {d : Diagnostic} {es : List Diagnostic}
    (h : ∀ ds, Leads (Within S μ ds) rest a (Within S μ' (ds ++ es))) :
    Leads (Within S μ ds) (if c then inWorld (World.report d) >>= fun _ => rest else rest) a
      (Within S μ' (ds ++ ((if c then [d] else []) ++ es))) := by
  split
  . rw [← List.append_assoc]
    apply Leads.bind (leads_report d)
    exact h _
  . exact h ds

theorem leads_report_unless {c : Prop} [Decidable c] {α : Type} {a : α} {μ' : Memory}
    {rest : StateM (View σ) α} {d : Diagnostic} {es : List Diagnostic}
    (h : ∀ ds, Leads (Within S μ ds) rest a (Within S μ' (ds ++ es))) :
    Leads (Within S μ ds) (if c then rest else inWorld (World.report d) >>= fun _ => rest) a
      (Within S μ' (ds ++ ((if c then [] else [d]) ++ es))) := by
  split
  . exact h ds
  . rw [← List.append_assoc]
    apply Leads.bind (leads_report d)
    exact h _

theorem leads_followAccessor (S : Scene) (o : Occurrence) :
    Leads (Within (σ := σ) S μ ds) (followAccessor S.gate o) (S.followAccessor μ o).1
      (Within S (S.followAccessor μ o).2.1 (ds ++ (S.followAccessor μ o).2.2)) := by
  unfold followAccessor Scene.followAccessor
  cases sortedRelations o Role.accessorOf with
  | nil =>
    simp only [List.append_nil]
    exact Leads.pure
  | cons variableOf others =>
    apply leads_report_unless
    intro ds
    apply Leads.get_bind_eq
    intro v hv
    have hroom : (hasRoom v && !v.resolvingAccessors.contains o.symbol.usr)
        = μ.admitsAccessor o.symbol.usr := by
      rw [← hv.memory]
      rfl
    unfold Scene.followVariable
    rw [hroom]
    cases μ.admitsAccessor o.symbol.usr with
    | true =>
      simp only [if_true]
      apply Leads.bind (a := ()) (Q := Within S (μ.enterAccessor o.symbol.usr) ds)
      . apply Leads.set
        exact ⟨hv.checking, by rw [← hv.memory]; rfl⟩
      . apply Leads.bind (leads_primaryDefinition S variableOf.symbol.usr)
        cases S.primaryDefinition variableOf.symbol.usr with
        | some definition => exact Leads.pure
        | none =>
          apply Leads.bind (a := ())
            (Q := Within S μ (ds ++ S.primaryReports variableOf.symbol.usr))
          . apply Leads.modify
            intro v hv
            refine ⟨hv.checking, ?_⟩
            -- The accessor that led nowhere is left, and nothing is entered any more.
            rw [← Memory.leaveAccessor_enterAccessor μ o.symbol.usr, ← hv.memory]
            rfl
          . exact Leads.pure
    | false =>
      simp only [Bool.false_eq_true, if_false]
      apply Leads.weaken (P := Within S μ ds)
      . apply Leads.bind (leads_report _)
        exact Leads.pure
      . rintro v' rfl
        exact hv

theorem leads_namedContainer (S : Scene) (container : Symbol) :
    Leads (Within (σ := σ) S μ ds) (namedContainer S.gate container) (S.namedContainer container)
      (Within S μ (ds ++ S.namedReports container)) := by
  unfold namedContainer Scene.namedContainer Scene.namedReports
  by_cases hkind : container.kind = .extensionType
  . simp only [hkind, if_true]
    apply Leads.bind (leads_relatedTo S container.usr Role.extendedBy)
    cases S.relatedTo container.usr Role.extendedBy with
    | nil => exact Leads.pure
    | cons extended rest => exact Leads.pure
  . simp only [hkind, if_false, List.append_nil]
    exact Leads.pure

theorem visit_first (S : Scene) (os : List Occurrence) :
    S.visit first os none
      =
    ((if (S.fresh os).isEmpty then .proceed else .stop, (S.fresh os).head?),
      S.faultsIn (S.fresh os).head?.toList) := by
  rw [← S.visit_fresh]
  unfold Scene.faultsIn
  cases h : S.fresh os with
  | nil => rfl
  | cons o rest =>
    have hfresh : S.isFresh o = true := by
      have : o ∈ S.fresh os := by simp [h]
      exact (List.mem_filter.mp this).2
    simp [Scene.visit, hfresh, first]

theorem leads_anyDefinition (S : Scene) (usr : String) :
    Leads (Within (σ := σ) S μ ds) (anyDefinition S.gate usr) (S.anyDefinition usr)
      (Within S μ (ds ++ S.anyReports usr)) := by
  have h : Leads (Within (σ := σ) S μ ds) _ _ _ :=
    leads_eachOccurrence S usr (.union Role.definition Role.declaration) first none
  rw [visit_first] at h
  unfold anyDefinition
  apply Leads.bind h
  exact Leads.pure

theorem leads_finish (pending : Pending) (names : List String) :
    Leads (Within (σ := σ) S μ ds) (finish pending names) (pending.finish names μ).1
      (Within S (pending.finish names μ).2 ds) := by
  cases pending with
  | accessor usr =>
    apply Leads.bind (a := ()) (Q := Within S (μ.leaveAccessor usr) ds)
    . apply Leads.modify
      intro v hv
      exact ⟨hv.checking, by rw [← hv.memory]; rfl⟩
    . exact Leads.pure
  | container usr name =>
    apply Leads.bind (a := ()) (Q := Within S (μ.leaveContainer usr (names ++ [name])) ds)
    . apply Leads.modify
      intro v hv
      exact ⟨hv.checking, by rw [← hv.memory]; rfl⟩
    . exact Leads.pure

theorem leads_followContainer (S : Scene) (o : Occurrence) :
    Leads (Within (σ := σ) S μ ds) (followContainer S.gate o) (S.followContainer μ o).1
      (Within S (S.followContainer μ o).2.1 (ds ++ (S.followContainer μ o).2.2)) := by
  unfold followContainer Scene.followContainer
  dsimp only
  apply leads_report_if
  intro ds
  cases (sortedRelations o Role.childOf).find? (·.symbol.kind.isScope) with
  | none =>
    simp only [Scene.enterParent, List.append_nil]
    exact Leads.pure
  | some parent =>
    dsimp only [Scene.enterParent]
    apply Leads.get_bind_eq
    intro v hv
    have hknown : v.containerNames = μ.containerNames := by
      rw [← hv.memory]
      rfl
    have hroom : (hasRoom v && !v.resolvingContainers.contains parent.symbol.usr)
        = μ.admitsContainer parent.symbol.usr := by
      rw [← hv.memory]
      rfl
    unfold Scene.enterContainer
    rw [hknown, hroom]
    cases μ.containerNames.get? parent.symbol.usr with
    | some names =>
      simp only [List.append_nil]
      apply Leads.weaken (P := Within S μ ds) Leads.pure
      rintro v' rfl
      exact hv
    | none =>
      cases μ.admitsContainer parent.symbol.usr with
      | true =>
        simp only [if_true]
        apply Leads.bind (a := ()) (Q := Within S (μ.enterContainer parent.symbol.usr) ds)
        . apply Leads.set
          exact ⟨hv.checking, by rw [← hv.memory]; rfl⟩
        . apply Leads.bind (leads_namedContainer S parent.symbol)
          apply Leads.bind (leads_anyDefinition S _)
          rw [List.append_assoc]
          cases S.anyDefinition (S.namedContainer parent.symbol).usr with
          | some definition => exact Leads.pure
          | none =>
            dsimp only
            rw [← Memory.leaveContainer_enterContainer]
            apply Leads.bind (leads_finish _ _)
            exact Leads.pure
      | false =>
        simp only [Bool.false_eq_true, if_false]
        apply Leads.weaken (P := Within S μ ds)
        . apply Leads.bind (leads_report _)
          exact Leads.pure
        . rintro v' rfl
          exact hv

theorem leads_step (S : Scene) (o : Occurrence) :
    Leads (Within (σ := σ) S μ ds) (step S.gate o) (S.step μ o).1
      (Within S (S.step μ o).2.1 (ds ++ (S.step μ o).2.2)) := by
  unfold step Scene.step
  apply Leads.bind (leads_followAccessor S o)
  cases S.followAccessor μ o with
  | mk found rest =>
    cases found with
    | some definition => exact Leads.pure
    | none =>
      dsimp only
      rw [← List.append_assoc]
      apply leads_followContainer

theorem leads_containersWithin (S : Scene) (depth : Nat) (o : Occurrence) :
    Leads (Within (σ := σ) S μ ds) (containersWithin S.gate depth o) (S.namesWithin depth μ o).1
      (Within S (S.namesWithin depth μ o).2.1 (ds ++ (S.namesWithin depth μ o).2.2)) := by
  induction depth generalizing μ ds o with
  | zero =>
    simp only [Scene.namesWithin, List.append_nil]
    exact Leads.pure
  | succ depth ih =>
    unfold containersWithin Scene.namesWithin
    apply Leads.bind (leads_step S o)
    cases S.step μ o with
    | mk step rest =>
      cases step with
      | done names => exact Leads.pure
      | goOn pending next =>
        dsimp only
        rw [← List.append_assoc]
        apply Leads.bind (ih next)
        apply leads_finish

end View

end FreshIndex
