import FreshIndex.Checker

/-!
This module contains the checked view of an index: it answers as the index does, but leaves out what
is stale. A stale occurrence is passed over without being shown to a visitor, so that it ends no
enumeration and does not change the order of the others.
-/

namespace FreshIndex

variable {σ : Type}

/-- An index together with the machine that its results are held against. -/
structure Gate (σ : Type) where
  host : Host σ
  index : RawIndex σ

namespace Gate

def ofIndex? (host : Host σ) (index : Option (RawIndex σ)) : Option (Gate σ) :=
  index.map fun index => { host, index }

def shown : String :=
  "UncheckedIndex \x7b .. \x7d"

end Gate

structure View (σ : Type) extends Checking σ where
  /--
  The names of a container and of all that contain it, outermost first, by the container's USR.
  -/
  containerNames : Memo String (List String)
  resolvingContainers : List String
  resolvingAccessors : List String

namespace View

def ofLevel (level : CheckLevel) (world : World σ) : View σ where
  checker := .ofLevel level
  world
  containerNames := .empty
  resolvingContainers := []
  resolvingAccessors := []

def inChecker {α : Type} (act : StateM (Checking σ) α) : StateM (View σ) α :=
  fun v =>
    let (a, checking) := act v.toChecking
    (a, { v with toChecking := checking })

def inWorld {α : Type} (act : StateM (World σ) α) : StateM (View σ) α :=
  inChecker (Checking.inWorld act)

/-- The occurrences that are up to date, each checked when it is reached. -/
def retainFresh (g : Gate σ) : List Occurrence → StateM (View σ) (List Occurrence)
  | [] => return []
  | o :: rest => do
    let isFresh ← View.inChecker (Checker.isFresh g.host o.location)
    let kept ← retainFresh g rest
    return if isFresh then o :: kept else kept

def visitFresh {τ : Type} (g : Gate σ) (visitor : Occurrence → τ → Flow × τ) :
    List Occurrence → τ → StateM (View σ) (Flow × τ)
  | [], t => return (.proceed, t)
  | o :: rest, t => do
    if ← View.inChecker (Checker.isFresh g.host o.location) then
      match visitor o t with
      | (.stop, t) => return (.stop, t)
      | (.proceed, t) => visitFresh g visitor rest t
    else
      visitFresh g visitor rest t

/-- Hands what is up to date in a scan to a visitor, and closes the scan if it comes to its end. -/
def eachFresh {τ : Type} (g : Gate σ) (scan : Scan) (visitor : Occurrence → τ → Flow × τ)
    (t : τ) : StateM (View σ) (Flow × τ) := do
  let (flow, t) ← visitFresh g visitor scan.visited t
  if flow = .proceed then
    View.inWorld (World.emitAll scan.closing)
  return (flow, t)

def eachOccurrence {τ : Type} (g : Gate σ) (usr : String) (roles : Roles)
    (visitor : Occurrence → τ → Flow × τ) (t : τ) : StateM (View σ) (Flow × τ) := do
  let scan ← View.inWorld (World.ask (.occurrences usr roles) (g.index.occurrences usr roles))
  eachFresh g scan visitor t

def eachContaining {τ : Type} (g : Gate σ) (pattern : String) (options : PatternOptions)
    (visitor : Occurrence → τ → Flow × τ) (t : τ) : StateM (View σ) (Flow × τ) := do
  let scan ← View.inWorld (World.ask (.containing pattern) (g.index.containing pattern options))
  eachFresh g scan visitor t

def eachNamed {τ : Type} (g : Gate σ) (name : String)
    (visitor : Occurrence → τ → Flow × τ) (t : τ) : StateM (View σ) (Flow × τ) := do
  let scan ← View.inWorld (World.ask (.named name) (g.index.named name))
  eachFresh g scan visitor t

def occurrencesOf (g : Gate σ) (usr : String) (roles : Roles) :
    StateM (View σ) (List Occurrence) := do
  let found ← View.inWorld (g.index.occurrencesOf usr roles)
  retainFresh g found

def relatedTo (g : Gate σ) (usr : String) (roles : Roles) :
    StateM (View σ) (List Occurrence) := do
  let found ← View.inWorld (g.index.relatedTo usr roles)
  retainFresh g found

def unitTests (g : Gate σ) : StateM (View σ) (List Occurrence) := do
  let found ← View.inWorld g.index.allUnitTests
  retainFresh g found

def unitTestsFor (g : Gate σ) (paths : List String) : StateM (View σ) (List Occurrence) := do
  let found ← View.inWorld (g.index.unitTestsFor paths)
  retainFresh g found

def hasFreshUnit (g : Gate σ) (uri : DocumentUri) (mainFile : Option DocumentUri) :
    StateM (View σ) Bool :=
  View.inChecker (Checker.hasFreshUnit g.host g.index uri mainFile)

/--
The symbols recorded for a path, if its unit is up to date. A changed file may be wrong anywhere, so
none of its symbols is shown.
-/
def symbolsIn (g : Gate σ) (path : String) : StateM (View σ) (List Symbol) := do
  if ← hasFreshUnit g (.ofPathText path) none then
    View.inWorld (g.index.symbolsIn path)
  else
    return []

def retainBuilt (g : Gate σ) : List DocumentUri → StateM (View σ) (List DocumentUri)
  | [] => return []
  | file :: rest => do
    let isBuilt ← hasFreshUnit g file none
    let kept ← retainBuilt g rest
    return if isBuilt then file :: kept else kept

def mainFilesOf (g : Gate σ) (uri : DocumentUri) (crossLanguage : Bool) :
    StateM (View σ) (List DocumentUri) := do
  let paths ← View.inWorld (g.index.mainFilesOf uri.pseudoPath crossLanguage)
  retainBuilt g (paths.map .ofPathText)

def fileHasUnsavedEdits (g : Gate σ) (uri : DocumentUri) : StateM (View σ) Bool :=
  View.inChecker (Checker.fileHasUnsavedEdits g.host uri)

/-- The definitions of a symbol, or its declarations if there is no definition. -/
def definitionsOrDeclarations (g : Gate σ) (usr : String) :
    StateM (View σ) (List Occurrence) := do
  let definitions ← occurrencesOf g usr Role.definition
  if definitions.isEmpty then
    occurrencesOf g usr Role.declaration
  else
    return definitions

/-- The occurrence that stands for the definition of a symbol: the least of those there are. -/
def primaryDefinition (g : Gate σ) (usr : String) : StateM (View σ) (Option Occurrence) := do
  let primary := least? (← definitionsOrDeclarations g usr)
  if primary.isNone then
    View.inWorld (World.report (.noDefinition usr))
  return primary

end View

end FreshIndex
