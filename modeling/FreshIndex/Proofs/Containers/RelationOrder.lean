import Mathlib.Data.List.Forall2
import FreshIndex.Proofs.Containers.History
import FreshIndex.Proofs.Symbol.Order

/-!
This module contains the proof that the order in which an index has recorded the relations of its
occurrences has no influence on the names of containers. Relations are sorted before one of them is
chosen, and two occurrences are told apart by their relations only if all else is the same.
-/

namespace FreshIndex

variable {σ : Type}

namespace Occurrence

/-- All but the relations is the same. -/
structure Coincides (o p : Occurrence) : Prop where
  location : o.location = p.location
  roles : o.roles = p.roles
  symbol : o.symbol = p.symbol

theorem coincides_iff {o p : Occurrence} :
    o.Coincides p ↔ o.location = p.location ∧ o.roles = p.roles ∧ o.symbol = p.symbol :=
  ⟨fun h => ⟨h.location, h.roles, h.symbol⟩, fun h => ⟨h.1, h.2.1, h.2.2⟩⟩

instance (o p : Occurrence) : Decidable (o.Coincides p) :=
  decidable_of_iff _ coincides_iff.symm

/-- The same relations are recorded, in another order. -/
structure IsLike (o p : Occurrence) : Prop extends o.Coincides p where
  relations : o.relations.Perm p.relations

variable {o o' p p' : Occurrence}

theorem compare_eq (o p : Occurrence) :
    compare o p
      =
    (compare o.location p.location).then ((compare o.roles p.roles).then
      ((compare o.symbol p.symbol).then (compare o.relations p.relations))) :=
  rfl

/-- Relations are looked at last, so that they do not matter if anything else is different. -/
theorem compare_of_isLike (ho : o.IsLike o') (hp : p.IsLike p') (h : ¬ o.Coincides p) :
    compare o p = compare o' p' := by
  rw [compare_eq, compare_eq, ← ho.location, ← hp.location, ← ho.roles, ← hp.roles, ← ho.symbol,
    ← hp.symbol]
  cases hlocation : compare o.location p.location with
  | lt | gt => rfl
  | eq =>
    cases hroles : compare o.roles p.roles with
    | lt | gt => rfl
    | eq =>
      cases hsymbol : compare o.symbol p.symbol with
      | lt | gt => rfl
      | eq =>
        rw [Std.LawfulEqOrd.compare_eq_iff_eq] at hlocation hroles hsymbol
        exact absurd ⟨hlocation, hroles, hsymbol⟩ h

theorem sortedRelations_of_isLike (h : o.IsLike o') (roles : Roles) :
    View.sortedRelations o roles = View.sortedRelations o' roles := by
  unfold View.sortedRelations relationsIn
  exact sorted_of_perm (h.relations.filter _)

theorem isRelatedTo_of_isLike (h : o.IsLike o') (usr : String) (roles : Roles) :
    ListedIndex.isRelatedTo usr roles o = ListedIndex.isRelatedTo usr roles o' := by
  unfold ListedIndex.isRelatedTo
  exact h.relations.any_eq

theorem isOf_of_isLike (h : o.IsLike o') (usr : String) (roles : Roles) :
    ListedIndex.isOf usr roles o = ListedIndex.isOf usr roles o' := by
  unfold ListedIndex.isOf
  rw [h.symbol, h.roles]

end Occurrence

theorem least?_rel {α : Type} [Ord α] [Std.TransOrd α] {R : α → α → Prop} {items items' : List α}
    (h : List.Forall₂ R items items')
    (hcompare : items.Pairwise fun a b => ∀ a' b', R a a' → R b b' → compare a b = compare a' b') :
    Option.Rel R (least? items) (least? items') := by
  induction h with
  | nil => exact .none
  | @cons a a' rest rest' ha hrest ih =>
    obtain ⟨hfirst, hcompare⟩ := List.pairwise_cons.mp hcompare
    have ih := ih hcompare
    rw [least?_cons, least?_cons]
    cases hleast : least? rest with
    | none =>
      rw [hleast] at ih
      cases hleast' : least? rest' with
      | none => exact .some ha
      | some b' =>
        rw [hleast'] at ih
        cases ih
    | some b =>
      rw [hleast] at ih
      cases hleast' : least? rest' with
      | none =>
        rw [hleast'] at ih
        cases ih
      | some b' =>
        rw [hleast'] at ih
        cases ih with
        | some hb =>
          dsimp only
          rw [← hfirst b (mem_of_least? hleast) a' b' ha hb]
          split
          . exact .some ha
          . exact .some hb

theorem rel_head? {α β : Type} {R : α → β → Prop} {items : List α} {items' : List β}
    (h : List.Forall₂ R items items') : Option.Rel R items.head? items'.head? := by
  cases h with
  | nil => exact .none
  | cons ha _ => exact .some ha

theorem forall₂_toList {α β : Type} {R : α → β → Prop} {item? : Option α} {item?' : Option β}
    (h : Option.Rel R item? item?') : List.Forall₂ R item?.toList item?'.toList := by
  cases h with
  | none => exact .nil
  | some ha => exact .cons ha .nil

/-- Of two results only the first parts may be different, and these are related. -/
inductive RelFirst {α β γ : Type} (R : α → β → Prop) : α × γ → β × γ → Prop
  | intro {a : α} {b : β} (h : R a b) (c : γ) : RelFirst R (a, c) (b, c)

/-- Both steps tell the same, but what they lead to may have its relations in another order. -/
inductive View.Step.IsLike : View.Step → View.Step → Prop
  | done (names : List String) : IsLike (.done names) (.done names)
  | goOn (pending : View.Pending) {next next' : Occurrence} (h : next.IsLike next') :
    IsLike (.goOn pending next) (.goOn pending next')

namespace Scene

/--
The other scene shows the same, but that relations are recorded in another order. Occurrences can be
told apart without their relations.
-/
structure Reorders (S T : Scene) : Prop where
  level : T.level = S.level
  snapshot : T.snapshot = S.snapshot
  occurrences : List.Forall₂ Occurrence.IsLike S.lists.occurrences T.lists.occurrences
  distinct : S.lists.occurrences.Pairwise fun o p => ¬ o.Coincides p

namespace Reorders

variable {S T : Scene} (h : S.Reorders T)
include h

theorem isFresh {o o' : Occurrence} (ho : o.IsLike o') : S.isFresh o = T.isFresh o' := by
  unfold Scene.isFresh
  rw [h.level, h.snapshot, ho.location]

theorem faults {o o' : Occurrence} (ho : o.IsLike o') : S.faults o = T.faults o' := by
  unfold Scene.faults
  rw [h.level, h.snapshot, ho.location]

theorem faultsIn {os os' : List Occurrence} (hos : List.Forall₂ Occurrence.IsLike os os') :
    S.faultsIn os = T.faultsIn os' := by
  unfold Scene.faultsIn
  induction hos with
  | nil => rw [List.flatMap_nil, List.flatMap_nil]
  | cons ho _ ih => rw [List.flatMap_cons, List.flatMap_cons, ih, h.faults ho]

theorem fresh_filter {p : Occurrence → Bool} (hp : ∀ o o', o.IsLike o' → p o = p o') :
    List.Forall₂ Occurrence.IsLike (S.fresh (S.lists.occurrences.filter p))
      (T.fresh (T.lists.occurrences.filter p)) := by
  have hfilter {os os' : List Occurrence} {q q' : Occurrence → Bool}
      (hos : List.Forall₂ Occurrence.IsLike os os') (hq : ∀ o o', o.IsLike o' → q o = q' o') :
      List.Forall₂ Occurrence.IsLike (os.filter q) (os'.filter q') := by
    apply List.rel_filter _ hos
    intro o o' ho
    dsimp only
    rw [hq o o' ho]
  exact hfilter (hfilter h.occurrences hp) fun _ _ => h.isFresh

theorem occurrencesOf (usr : String) (roles : Roles) :
    List.Forall₂ Occurrence.IsLike (S.occurrencesOf usr roles) (T.occurrencesOf usr roles) := by
  apply h.fresh_filter
  intro o o' ho
  exact Occurrence.isOf_of_isLike ho usr roles

theorem relatedTo (usr : String) (roles : Roles) :
    List.Forall₂ Occurrence.IsLike (S.relatedTo usr roles) (T.relatedTo usr roles) := by
  apply h.fresh_filter
  intro o o' ho
  exact Occurrence.isRelatedTo_of_isLike ho usr roles

theorem definitionsOrDeclarations (usr : String) :
    List.Forall₂ Occurrence.IsLike (S.definitionsOrDeclarations usr)
      (T.definitionsOrDeclarations usr) := by
  unfold Scene.definitionsOrDeclarations
  dsimp only
  have hdefinitions := h.occurrencesOf usr Role.definition
  generalize S.occurrencesOf usr Role.definition = definitions at hdefinitions ⊢
  generalize T.occurrencesOf usr Role.definition = definitions' at hdefinitions ⊢
  cases hdefinitions with
  | nil => exact h.occurrencesOf usr Role.declaration
  | cons ho hrest => exact .cons ho hrest

theorem primaryDefinition (usr : String) :
    Option.Rel Occurrence.IsLike (S.primaryDefinition usr) (T.primaryDefinition usr) := by
  apply least?_rel (h.definitionsOrDeclarations usr)
  apply (h.distinct.sublist (S.definitionsOrDeclarations_sublist usr)).imp
  intro o p hdistinct o' p' ho hp
  exact Occurrence.compare_of_isLike ho hp hdistinct

theorem primaryReports (usr : String) : S.primaryReports usr = T.primaryReports usr := by
  unfold Scene.primaryReports
  rw [h.faultsIn (h.definitionsOrDeclarations usr)]
  have hprimary := h.primaryDefinition usr
  generalize S.primaryDefinition usr = primary at hprimary ⊢
  generalize T.primaryDefinition usr = primary' at hprimary ⊢
  cases hprimary with
  | none => rfl
  | some _ => rfl

theorem anyDefinition (usr : String) :
    Option.Rel Occurrence.IsLike (S.anyDefinition usr) (T.anyDefinition usr) := by
  exact rel_head? (h.occurrencesOf usr _)

theorem anyReports (usr : String) : S.anyReports usr = T.anyReports usr := by
  exact h.faultsIn (forall₂_toList (h.anyDefinition usr))

theorem namedContainer (container : Symbol) :
    S.namedContainer container = T.namedContainer container := by
  have hrelated := h.relatedTo container.usr Role.extendedBy
  unfold Scene.namedContainer
  generalize S.relatedTo container.usr Role.extendedBy = related at hrelated ⊢
  generalize T.relatedTo container.usr Role.extendedBy = related' at hrelated ⊢
  cases hrelated with
  | nil => rfl
  | cons ho _ =>
    dsimp only
    rw [ho.symbol]

theorem namedReports (container : Symbol) :
    S.namedReports container = T.namedReports container := by
  unfold Scene.namedReports
  rw [h.faultsIn (h.relatedTo container.usr Role.extendedBy)]

variable {μ : Memory} {o o' : Occurrence}

theorem followVariable (accessor variableUsr : String) :
    RelFirst (Option.Rel Occurrence.IsLike) (S.followVariable μ accessor variableUsr)
      (T.followVariable μ accessor variableUsr) := by
  have hprimary := h.primaryDefinition variableUsr
  unfold Scene.followVariable
  rw [h.primaryReports variableUsr]
  generalize S.primaryDefinition variableUsr = primary at hprimary ⊢
  generalize T.primaryDefinition variableUsr = primary' at hprimary ⊢
  split
  . cases hprimary with
    | none => exact .intro .none _
    | some ho => exact .intro (.some ho) _
  . exact .intro .none _

theorem followAccessor (ho : o.IsLike o') :
    RelFirst (Option.Rel Occurrence.IsLike) (S.followAccessor μ o) (T.followAccessor μ o') := by
  unfold Scene.followAccessor
  rw [Occurrence.sortedRelations_of_isLike ho, ho.symbol]
  cases View.sortedRelations o' Role.accessorOf with
  | nil => exact .intro .none _
  | cons variableOf others =>
    have hvariable := h.followVariable (μ := μ) o'.symbol.usr variableOf.symbol.usr
    dsimp only
    generalize S.followVariable μ o'.symbol.usr variableOf.symbol.usr = followed at hvariable ⊢
    generalize T.followVariable μ o'.symbol.usr variableOf.symbol.usr = followed' at hvariable ⊢
    cases hvariable with
    | intro hfound _ => exact .intro hfound _

theorem enterContainer (usr : String) (container : Symbol) :
    RelFirst View.Step.IsLike (S.enterContainer μ usr container)
      (T.enterContainer μ usr container) := by
  have hdefinition := h.anyDefinition (T.namedContainer container).usr
  unfold Scene.enterContainer
  rw [h.namedContainer container, h.namedReports container]
  dsimp only
  rw [h.anyReports]
  generalize S.anyDefinition (T.namedContainer container).usr = definition at hdefinition ⊢
  generalize T.anyDefinition (T.namedContainer container).usr = definition' at hdefinition ⊢
  split
  . exact .intro (.done _) _
  . split
    . cases hdefinition with
      | none => exact .intro (.done _) _
      | some ho => exact .intro (.goOn _ ho) _
    . exact .intro (.done _) _

theorem enterParent (usr : String) (parent : Option Relation) :
    RelFirst View.Step.IsLike (S.enterParent μ usr parent) (T.enterParent μ usr parent) := by
  cases parent with
  | none => exact .intro (.done _) _
  | some parent => exact h.enterContainer usr parent.symbol

theorem followContainer (ho : o.IsLike o') :
    RelFirst View.Step.IsLike (S.followContainer μ o) (T.followContainer μ o') := by
  unfold Scene.followContainer
  rw [Occurrence.sortedRelations_of_isLike ho, ho.symbol]
  dsimp only
  generalize (View.sortedRelations o' Role.childOf).find? (·.symbol.kind.isScope) = parent
  have hparent := h.enterParent (μ := μ) o'.symbol.usr parent
  generalize S.enterParent μ o'.symbol.usr parent = entered at hparent ⊢
  generalize T.enterParent μ o'.symbol.usr parent = entered' at hparent ⊢
  cases hparent with
  | intro hstep _ => exact .intro hstep _

theorem step (ho : o.IsLike o') :
    RelFirst View.Step.IsLike (S.step μ o) (T.step μ o') := by
  have haccessor := h.followAccessor (μ := μ) ho
  unfold Scene.step
  generalize S.followAccessor μ o = followed at haccessor ⊢
  generalize T.followAccessor μ o' = followed' at haccessor ⊢
  cases haccessor with
  | intro hfound rest =>
    cases hfound with
    | some hdefinition =>
      rw [ho.symbol]
      exact .intro (.goOn _ hdefinition) _
    | none =>
      have hcontainer := h.followContainer (μ := rest.1) ho
      dsimp only
      generalize S.followContainer rest.1 o = step at hcontainer ⊢
      generalize T.followContainer rest.1 o' = step' at hcontainer ⊢
      cases hcontainer with
      | intro hstep _ => exact .intro hstep _

/-- One step leads to occurrences that are alike again, so that the whole way has the same names. -/
theorem namesWithin (depth : Nat) (ho : o.IsLike o') :
    S.namesWithin depth μ o = T.namesWithin depth μ o' := by
  induction depth generalizing μ o o' with
  | zero => rfl
  | succ depth ih =>
    have hstep := h.step (μ := μ) ho
    unfold Scene.namesWithin
    generalize S.step μ o = step at hstep ⊢
    generalize T.step μ o' = step' at hstep ⊢
    cases hstep with
    | intro hstep rest =>
      cases hstep with
      | done names => rfl
      | goOn pending hnext =>
        dsimp only
        rw [ih hnext]

end Reorders

end Scene

theorem View.containersOf_anew (S : Scene) (o : Occurrence) (w : World σ) :
    let run := containersOf S.gate o (ofLevel S.level w)
    let anew := S.namesWithin (maxDepth + 1) ⟨.empty, [], []⟩ o
    run.1 = anew.1 ∧ run.2.world.diagnostics = w.diagnostics ++ anew.2.2 := by
  have hwithin : Within S ⟨.empty, [], []⟩ w.diagnostics (ofLevel S.level w) :=
    ⟨⟨rfl, Checker.accurate_ofLevel _ _, rfl⟩, rfl⟩
  obtain ⟨hnames, hafter⟩ := leads_containersWithin S (maxDepth + 1) o _ hwithin
  exact ⟨hnames, hafter.checking.told⟩

/--
On a new view, the names of the containers of an occurrence and what is reported on the way do not
depend on the order in which relations are recorded, neither those of the occurrence nor those of
the occurrences in the index.
-/
theorem View.containersOf_of_reorders (S T : Scene) (h : S.Reorders T) (o o' : Occurrence)
    (ho : o.IsLike o') (w w' : World σ) :
    let run := containersOf S.gate o (ofLevel S.level w)
    let run' := containersOf T.gate o' (ofLevel T.level w')
    run.1 = run'.1 ∧
      ∃ reported, run.2.world.diagnostics = w.diagnostics ++ reported ∧
        run'.2.world.diagnostics = w'.diagnostics ++ reported := by
  have hsame := h.namesWithin (μ := ⟨.empty, [], []⟩) (maxDepth + 1) ho
  obtain ⟨hnames, htold⟩ := containersOf_anew S o w
  obtain ⟨hnames', htold'⟩ := containersOf_anew T o' w'
  rw [← hsame] at hnames' htold'
  exact ⟨hnames.trans hnames'.symm, _, htold, htold'⟩

/-! Occurrences with several relations each, also of one kind to one symbol, that run in circles. -/

def Occurrence.turned (o : Occurrence) : Occurrence :=
  { o with relations := o.relations.reverse }

theorem Occurrence.isLike_turned (o : Occurrence) : o.IsLike o.turned :=
  ⟨⟨rfl, rfl, rfl⟩, o.relations.reverse_perm.symm⟩

def Symbol.entangled (usr : String) : Symbol where
  usr
  name := usr
  kind :=
    match usr with
    | "A" => .structType
    | "B" => .extensionType
    | "C" => .classType
    | _ => .field

def Occurrence.entangled (usr : String) (related : List (String × Role)) : Occurrence where
  location := ⟨"/f", 1, 1, false, ⟨0⟩⟩
  roles := Role.definition
  symbol := .entangled usr
  relations := related.map fun (usr, role) => ⟨.entangled usr, role⟩

def Scene.entangled : List Occurrence :=
  [.entangled "v" [("A", .childOf), ("w", .childOf), ("B", .childOf), ("A", .childOf)],
    .entangled "A" [("B", .childOf), ("A", .extendedBy)],
    .entangled "B" [("C", .childOf), ("A", .childOf)],
    .entangled "C" [("B", .extendedBy), ("B", .childOf)], .entangled "w" [("C", .childOf)]]

def Occurrence.entangledAccessor : Occurrence :=
  .entangled "get" [("w", .accessorOf), ("v", .accessorOf), ("v", .accessorOf)]

/-- The names that a new view gives, and what it reports on the way. -/
def View.namesAnew (os : List Occurrence) (o : Occurrence) : List String × List Diagnostic :=
  let S := Scene.ofOccurrences os
  let (names, v) := containersOf (σ := Unit) S.gate o (ofLevel S.level ⟨(), []⟩)
  (names, v.world.diagnostics)

/--
The accessor leads to its variable, and that to the least of the scopes that it is a child of. From
there on each occurrence has one relation to go by.
-/
theorem View.namesAnew_entangled :
    namesAnew Scene.entangled .entangledAccessor
      = (["B", "C", "A"], [.severalVariables, .severalParents, .endlessContainers "C" "B"]) := by
  let S := Scene.ofOccurrences Scene.entangled
  let v := Occurrence.entangled "v"
    [("A", .childOf), ("w", .childOf), ("B", .childOf), ("A", .childOf)]
  have hvariables : sortedRelations .entangledAccessor Role.accessorOf
      = [⟨.entangled "v", Role.accessorOf⟩, ⟨.entangled "v", Role.accessorOf⟩,
        ⟨.entangled "w", Role.accessorOf⟩] :=
    sorted_eq_iff.mpr ⟨by decide +kernel, by decide +kernel⟩
  have hparents : sortedRelations v Role.childOf
      = [⟨.entangled "A", Role.childOf⟩, ⟨.entangled "A", Role.childOf⟩,
        ⟨.entangled "B", Role.childOf⟩, ⟨.entangled "w", Role.childOf⟩] :=
    sorted_eq_iff.mpr ⟨by decide +kernel, by decide +kernel⟩
  have haccessor : S.step ⟨.empty, [], []⟩ .entangledAccessor
      = (.goOn (.accessor "get") v, ⟨.empty, [], ["get"]⟩, [.severalVariables]) := by
    unfold Scene.step Scene.followAccessor
    rw [hvariables]
    rfl
  have hvariable : (S.namesWithin maxDepth ⟨.empty, [], ["get"]⟩ v).1 = ["B", "C", "A"] ∧
      (S.namesWithin maxDepth ⟨.empty, [], ["get"]⟩ v).2.2
        = [.severalParents, .endlessContainers "C" "B"] := by
    change (S.namesWithin (127 + 1) _ v).1 = _ ∧ (S.namesWithin (127 + 1) _ v).2.2 = _
    unfold Scene.namesWithin Scene.step Scene.followContainer
    rw [hparents]
    decide +kernel
  obtain ⟨hnames, htold⟩ := containersOf_anew S .entangledAccessor (⟨(), []⟩ : World Unit)
  rw [Scene.namesWithin, haccessor] at hnames htold
  apply Prod.ext
  . exact hnames.trans hvariable.1
  . exact htold.trans (congrArg (Diagnostic.severalVariables :: ·) hvariable.2)

theorem View.containersOf_turned :
    namesAnew Scene.entangled .entangledAccessor
        = (["B", "C", "A"], [.severalVariables, .severalParents, .endlessContainers "C" "B"]) ∧
      namesAnew (Scene.entangled.map Occurrence.turned) Occurrence.entangledAccessor.turned
        = (["B", "C", "A"], [.severalVariables, .severalParents, .endlessContainers "C" "B"]) := by
  have hturned : List.Forall₂ Occurrence.IsLike Scene.entangled
      (Scene.entangled.map Occurrence.turned) :=
    List.forall₂_map_right_iff.mpr (List.forall₂_same.mpr fun o _ => o.isLike_turned)
  have hreorders : (Scene.ofOccurrences Scene.entangled).Reorders
      (.ofOccurrences (Scene.entangled.map Occurrence.turned)) :=
    ⟨rfl, rfl, hturned, by decide⟩
  obtain ⟨hnames, reported, htold, htold'⟩ := containersOf_of_reorders _ _ hreorders _ _
    Occurrence.entangledAccessor.isLike_turned (⟨(), []⟩ : World Unit) ⟨(), []⟩
  refine ⟨namesAnew_entangled, ?_⟩
  rw [← namesAnew_entangled]
  exact Prod.ext hnames.symm (htold'.trans htold.symm)

end FreshIndex
