import FreshIndex.View.Basic

/-!
This module contains the names of the scopes that an occurrence stands in. An accessor stands in the
scope of its variable. Any other occurrence stands in the container that it is a child of, and an
extension is taken for the type that it extends.

An index may record relations that run in a circle. So the containers and the accessors that are
being looked at are kept, and an occurrence is followed only as long as it leads to a new one and
their number stays within `maxDepth`.
-/

namespace FreshIndex

variable {σ : Type}

namespace View

/-- The greatest number of containers and accessors that are looked at within each other. -/
def maxDepth : Nat := 128

def sortedRelations (o : Occurrence) (roles : Roles) : List Relation :=
  sorted (o.relationsIn roles)

inductive Pending
  | accessor (usr : String)
  | container (usr name : String)
  deriving Repr, DecidableEq

/-- What a look at an occurrence tells: its names, or the occurrence that it leads to. -/
inductive Step
  | done (names : List String)
  | goOn (pending : Pending) (next : Occurrence)
  deriving Repr, DecidableEq

/-- Whether one more container or accessor may be looked at. -/
def hasRoom (v : View σ) : Bool :=
  v.resolvingAccessors.length + v.resolvingContainers.length < maxDepth

/--
Takes an occurrence for the variable that it is an accessor of, and gives the definition of the
variable. There is none if the occurrence is no accessor, if its variable has no definition, or if
the accessor is being looked at already.
-/
def followAccessor (g : Gate σ) (o : Occurrence) : StateM (View σ) (Option Occurrence) := do
  match sortedRelations o Role.accessorOf with
  | [] => return none
  | variableOf :: others =>
    unless others.isEmpty do
      View.inWorld (World.report .severalVariables)
    let usr := o.symbol.usr
    let v ← get
    if hasRoom v && !v.resolvingAccessors.contains usr then
      set { v with resolvingAccessors := usr :: v.resolvingAccessors }
      match ← primaryDefinition g variableOf.symbol.usr with
      | some definition => return some definition
      | none =>
        modify fun v => { v with resolvingAccessors := v.resolvingAccessors.erase usr }
        return none
    else
      View.inWorld (World.report (.endlessAccessors usr))
      return none

/-- The symbol whose name stands for a container: for an extension, the type that it extends. -/
def namedContainer (g : Gate σ) (container : Symbol) : StateM (View σ) Symbol := do
  if container.kind = .extensionType then
    match ← relatedTo g container.usr Role.extendedBy with
    | extended :: _ => return extended.symbol
    | [] => return container
  else
    return container

def first (o : Occurrence) (_ : Option Occurrence) : Flow × Option Occurrence :=
  (.stop, some o)

/-- Any definition or declaration of a symbol. -/
def anyDefinition (g : Gate σ) (usr : String) : StateM (View σ) (Option Occurrence) := do
  let (_, found) ← eachOccurrence g usr (.union Role.definition Role.declaration) first none
  return found

def finish : Pending → List String → StateM (View σ) (List String)
  | .accessor usr, names => do
    modify fun v => { v with resolvingAccessors := v.resolvingAccessors.erase usr }
    return names
  | .container usr name, names => do
    let names := names ++ [name]
    modify fun v =>
      { v with
        resolvingContainers := v.resolvingContainers.erase usr
        containerNames := v.containerNames.insert usr names }
    return names

def followContainer (g : Gate σ) (o : Occurrence) : StateM (View σ) Step := do
  let parents := sortedRelations o Role.childOf
  if 1 < parents.length then
    View.inWorld (World.report .severalParents)
  match parents.find? (·.symbol.kind.isScope) with
  | none => return .done []
  | some ⟨container, _⟩ =>
    let usr := container.usr
    let v ← get
    match v.containerNames.get? usr with
    | some names => return .done names
    | none =>
      if hasRoom v && !v.resolvingContainers.contains usr then
        set { v with resolvingContainers := usr :: v.resolvingContainers }
        -- What is kept is kept under the container itself, also if another symbol gives the name.
        let named ← namedContainer g container
        match ← anyDefinition g named.usr with
        | some definition => return .goOn (.container usr named.name) definition
        | none => return .done (← finish (.container usr named.name) [])
      else
        View.inWorld (World.report (.endlessContainers o.symbol.usr container.name))
        return .done [container.name]

def step (g : Gate σ) (o : Occurrence) : StateM (View σ) Step := do
  match ← followAccessor g o with
  | some definition => return .goOn (.accessor o.symbol.usr) definition
  | none => followContainer g o

/--
The names of the containers of an occurrence, outermost first, if at most `depth` occurrences are
looked at. Every occurrence that leads to another takes up one of the places that `hasRoom` counts.
-/
def containersWithin (g : Gate σ) :
    (depth : Nat) → Occurrence → StateM (View σ) (List String)
  | 0, _ => return []
  | depth + 1, o => do
    match ← step g o with
    | .done names => return names
    | .goOn pending next => finish pending (← containersWithin g depth next)

def containersOf (g : Gate σ) (o : Occurrence) : StateM (View σ) (List String) :=
  containersWithin g (maxDepth + 1) o

end View

end FreshIndex
