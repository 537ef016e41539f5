import FreshIndex.Proofs.Scene.Containers
import FreshIndex.Proofs.Symbol.Order

/-!
This module contains the way on which the containers of an occurrence are looked up if no names are
known beforehand, and the proof that the names that are known beforehand cut this way short and
change nothing else about it.
-/

namespace FreshIndex

namespace Occurrence

/-- The variable that an occurrence is an accessor of. -/
def accessed? (o : Occurrence) : Option Symbol :=
  (least? (o.relationsIn Role.accessorOf)).map (·.symbol)

/-- The scope that an occurrence is a child of. -/
def container? (o : Occurrence) : Option Symbol :=
  (least? ((o.relationsIn Role.childOf).filter (·.symbol.kind.isScope))).map (·.symbol)

end Occurrence

/-- The stations of a way. The way may not go on from what is refused. -/
inductive Trail
  | outermost
  | accessor (rest : Trail)
  | refusedAccessor (rest : Trail)
  | container (usr name : String) (rest : Trail)
  | refusedContainer (usr name : String)
  deriving Repr, DecidableEq

namespace Trail

def names : Trail → List String
  | outermost => []
  | accessor rest => names rest
  | refusedAccessor rest => names rest
  | container _ name rest => names rest ++ [name]
  | refusedContainer _ name => [name]

/-- The names that are given to one who knows `known` and goes no further than to what he knows. -/
def namesBy (known : Memo String (List String)) : Trail → List String
  | outermost => []
  | accessor rest => namesBy known rest
  | refusedAccessor rest => namesBy known rest
  | container usr name rest =>
    match known.get? usr with
    | some names => names
    | none => namesBy known rest ++ [name]
  | refusedContainer usr name => (known.get? usr).getD [name]

/-- What is known after the way. -/
def remember (known : Memo String (List String)) : Trail → Memo String (List String)
  | outermost => known
  | accessor rest => remember known rest
  | refusedAccessor rest => remember known rest
  | container usr name rest =>
    match known.get? usr with
    | some _ => known
    | none => (remember known rest).insert usr (namesBy known rest ++ [name])
  | refusedContainer _ _ => known

/-- The first container on the way that is known is known by the names that the way gives it. -/
def AgreesWith (known : Memo String (List String)) : Trail → Prop
  | outermost => True
  | accessor rest => AgreesWith known rest
  | refusedAccessor rest => AgreesWith known rest
  | container usr name rest =>
    match known.get? usr with
    | some names => names = rest.names ++ [name]
    | none => AgreesWith known rest
  | refusedContainer usr name => ∀ names, known.get? usr = some names → names = [name]

/-- Nothing on the way is refused. -/
def IsOpen : Trail → Prop
  | outermost => True
  | accessor rest => IsOpen rest
  | refusedAccessor _ => False
  | container _ _ rest => IsOpen rest
  | refusedContainer _ _ => False

theorem namesBy_eq_iff (known : Memo String (List String)) (t : Trail) :
    t.namesBy known = t.names ↔ t.AgreesWith known := by
  induction t with
  | outermost => exact iff_of_true rfl trivial
  | accessor rest ih => exact ih
  | refusedAccessor rest ih => exact ih
  | container usr name rest ih =>
    unfold namesBy names AgreesWith
    cases known.get? usr with
    -- The look-up ends here, so nothing that is known of the rest of the way counts.
    | some names => rfl
    | none => rw [List.append_left_inj, ih]
  | refusedContainer usr name =>
    unfold namesBy names AgreesWith
    cases known.get? usr with
    | some names => simp
    | none => simp

theorem agreesWith_empty (t : Trail) : t.AgreesWith .empty := by
  induction t with
  | outermost => trivial
  | accessor rest ih => exact ih
  | refusedAccessor rest ih => exact ih
  | container usr name rest ih => exact ih
  | refusedContainer usr name =>
    intro names h
    cases h

end Trail

namespace Scene

def variableDefinition (S : Scene) (o : Occurrence) : Option Occurrence :=
  o.accessed?.bind fun v => S.primaryDefinition v.usr

def containerDefinition (S : Scene) (c : Symbol) : Option Occurrence :=
  S.anyDefinition (S.namedContainer c).usr

/-- The way that leads on from a container, if `onwards` are the ways from there. -/
def trailBeyond (S : Scene) (onwards : Memory → Occurrence → Trail) (μ : Memory) (c : Symbol) :
    Trail :=
  match S.containerDefinition c with
  | none => .outermost
  | some next => onwards (μ.enterContainer c.usr) next

def trailOutwards (S : Scene) (onwards : Memory → Occurrence → Trail) (μ : Memory)
    (o : Occurrence) : Trail :=
  match o.container? with
  | none => .outermost
  | some c =>
    if μ.admitsContainer c.usr then
      .container c.usr (S.namedContainer c).name (S.trailBeyond onwards μ c)
    else
      .refusedContainer c.usr c.name

/-- The way from an occurrence outwards, past the containers and accessors that `μ` holds. -/
def trail (S : Scene) : (depth : Nat) → Memory → Occurrence → Trail
  | 0, _, _ => .outermost
  | depth + 1, μ, o =>
    match S.variableDefinition o with
    | none => S.trailOutwards (S.trail depth) μ o
    | some next =>
      if μ.admitsAccessor o.symbol.usr then
        .accessor (S.trail depth (μ.enterAccessor o.symbol.usr) next)
      else
        .refusedAccessor (S.trailOutwards (S.trail depth) μ o)

theorem trail_containerNames (S : Scene) (depth : Nat) (μ : Memory) (o : Occurrence)
    (known : Memo String (List String)) :
    S.trail depth { μ with containerNames := known } o = S.trail depth μ o := by
  -- What is entered is entered beside what is known, and a way is chosen by the former alone.
  induction depth generalizing μ o with
  | zero => rfl
  | succ depth ih =>
    have haccessor : ∀ next, S.trail depth
        (Memory.enterAccessor { μ with containerNames := known } o.symbol.usr) next
          = S.trail depth (μ.enterAccessor o.symbol.usr) next :=
      fun next => ih (μ.enterAccessor o.symbol.usr) next
    have hcontainer : ∀ usr next, S.trail depth
        (Memory.enterContainer { μ with containerNames := known } usr) next
          = S.trail depth (μ.enterContainer usr) next :=
      fun usr next => ih (μ.enterContainer usr) next
    unfold trail trailOutwards trailBeyond
    simp only [haccessor, hcontainer]
    rfl

def conclude (S : Scene) (depth : Nat) : View.Step × Memory → List String × Memory
  | (.done names, μ) => (names, μ)
  | (.goOn pending next, μ) =>
    pending.finish (S.namesWithin depth μ next).1 (S.namesWithin depth μ next).2.1

theorem namesWithin_succ (S : Scene) (depth : Nat) (μ : Memory) (o : Occurrence) :
    ((S.namesWithin (depth + 1) μ o).1, (S.namesWithin (depth + 1) μ o).2.1)
      =
    S.conclude depth ((S.step μ o).1, (S.step μ o).2.1) := by
  rw [namesWithin]
  rcases S.step μ o with ⟨step, μ', reported⟩
  cases step with
  | done names => rfl
  | goOn pending next => rfl

/-- What is found along a way by one who keeps `μ`, and what he keeps then. -/
def along (μ : Memory) (t : Trail) : List String × Memory :=
  (t.namesBy μ.containerNames,
    { μ with containerNames := t.remember μ.containerNames })

theorem finish_accessor (μ : Memory) (usr : String) (t : Trail) :
    View.Pending.finish (.accessor usr) (along (μ.enterAccessor usr) t).1
        (along (μ.enterAccessor usr) t).2
      =
    along μ (.accessor t) := by
  simp [View.Pending.finish, along, Memory.leaveAccessor, Memory.enterAccessor, Trail.namesBy,
    Trail.remember]

theorem finish_container (μ : Memory) (usr name : String) (t : Trail)
    (hnew : μ.containerNames.get? usr = none) :
    View.Pending.finish (.container usr name) (along (μ.enterContainer usr) t).1
        (along (μ.enterContainer usr) t).2
      =
    along μ (.container usr name t) := by
  simp [View.Pending.finish, along, Memory.leaveContainer, Memory.enterContainer, Trail.namesBy,
    Trail.remember, hnew]

theorem step_eq (S : Scene) (μ : Memory) (o : Occurrence) :
    ((S.step μ o).1, (S.step μ o).2.1)
      =
    match S.variableDefinition o, μ.admitsAccessor o.symbol.usr with
    | some next, true => (.goOn (.accessor o.symbol.usr) next, μ.enterAccessor o.symbol.usr)
    | _, _ => ((S.followContainer μ o).1, (S.followContainer μ o).2.1) := by
  unfold step followAccessor followVariable variableDefinition Occurrence.accessed?
  rw [← head?_sorted]
  unfold View.sortedRelations
  cases sorted (o.relationsIn Role.accessorOf) with
  | nil => rfl
  | cons variableOf others =>
    dsimp only [List.head?_cons, Option.map_some, Option.bind_some]
    cases μ.admitsAccessor o.symbol.usr with
    | false =>
      cases S.primaryDefinition variableOf.symbol.usr with
      | none => rfl
      | some next => rfl
    | true =>
      simp only [if_true]
      cases S.primaryDefinition variableOf.symbol.usr with
      | none => rfl
      | some next => rfl

theorem followContainer_eq (S : Scene) (μ : Memory) (o : Occurrence) :
    ((S.followContainer μ o).1, (S.followContainer μ o).2.1)
      =
    match o.container? with
    | none => (.done [], μ)
    | some c =>
      ((S.enterContainer μ o.symbol.usr c).1, (S.enterContainer μ o.symbol.usr c).2.1) := by
  unfold followContainer Occurrence.container? View.sortedRelations
  dsimp only
  rw [find?_sorted]
  cases least? ((o.relationsIn Role.childOf).filter (·.symbol.kind.isScope)) with
  | none => rfl
  | some parent => rfl

theorem conclude_followContainer (S : Scene) (depth : Nat) (μ : Memory) (o : Occurrence)
    (ih : ∀ μ o, ((S.namesWithin depth μ o).1, (S.namesWithin depth μ o).2.1)
      = along μ (S.trail depth μ o)) :
    S.conclude depth ((S.followContainer μ o).1, (S.followContainer μ o).2.1)
      =
    along μ (S.trailOutwards (S.trail depth) μ o) := by
  rw [followContainer_eq]
  unfold trailOutwards
  cases o.container? with
  | none => rfl
  | some c =>
    dsimp only
    unfold enterContainer
    -- Names that are known are given out even where the way would not be admitted.
    cases hknown : μ.containerNames.get? c.usr with
    | some names =>
      cases μ.admitsContainer c.usr with
      | true => simp [conclude, along, Trail.namesBy, Trail.remember, hknown]
      | false => simp [conclude, along, Trail.namesBy, Trail.remember, hknown]
    | none =>
      cases μ.admitsContainer c.usr with
      | false => simp [conclude, along, Trail.namesBy, Trail.remember, hknown]
      | true =>
        unfold trailBeyond
        simp only [if_true]
        rw [← containerDefinition]
        cases S.containerDefinition c with
        | none => simp [conclude, along, Trail.namesBy, Trail.remember, hknown]
        | some next =>
          dsimp only [conclude]
          obtain ⟨hnames, hmemory⟩ := Prod.mk.inj (ih (μ.enterContainer c.usr) next)
          rw [hnames, hmemory]
          exact finish_container μ c.usr _ _ hknown

/-- The names of an occurrence are found along the way that leads outwards from it. -/
theorem namesWithin_eq (S : Scene) (depth : Nat) (μ : Memory) (o : Occurrence) :
    ((S.namesWithin depth μ o).1, (S.namesWithin depth μ o).2.1)
      =
    along μ (S.trail depth μ o) := by
  induction depth generalizing μ o with
  | zero => rfl
  | succ depth ih =>
    rw [namesWithin_succ, step_eq]
    unfold trail
    -- Look-up and way are refused an accessor by the same test, and both turn outwards then.
    have houtwards := S.conclude_followContainer depth μ o ih
    cases S.variableDefinition o with
    | none => exact houtwards
    | some next =>
      cases μ.admitsAccessor o.symbol.usr with
      | false => exact houtwards
      | true =>
        dsimp only [conclude]
        obtain ⟨hnames, hmemory⟩ := Prod.mk.inj (ih (μ.enterAccessor o.symbol.usr) next)
        rw [hnames, hmemory]
        exact finish_accessor μ o.symbol.usr _

end Scene

end FreshIndex
