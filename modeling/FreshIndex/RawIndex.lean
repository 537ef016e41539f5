import FreshIndex.Event

/-!
This module contains what an index of symbols is asked. Its answers are not held against the files
they are about. An enumeration hands one occurrence after the other to a visitor, who may stop it;
the events that belong to its end do not happen when it is stopped.
-/

namespace FreshIndex

variable {σ : Type}

inductive Flow
  | proceed
  | stop
  deriving Repr, DecidableEq

/-- What an enumeration visits, and what happens when it comes to its end. -/
structure Scan where
  visited : List Occurrence
  closing : List Event

/-- An answer, and what happens while it is found. -/
structure Reply (α : Type) where
  value : α
  events : List Event

/-- The questions to an index. -/
structure RawIndex (σ : Type) where
  occurrences : String → Roles → σ → Scan × σ
  related : String → Roles → σ → Reply (List Occurrence) × σ
  /-- The canonical occurrences of symbols whose names match a pattern. -/
  containing : String → PatternOptions → σ → Scan × σ
  named : String → σ → Scan × σ
  symbols : String → σ → Reply (List Symbol) × σ
  unitTests : σ → Reply (List Occurrence) × σ
  /-- The unit tests of units with one of some main files. -/
  unitTestsOf : List String → σ → Reply (List Occurrence) × σ
  /-- The main files that include a path, on request also across languages. -/
  mainFiles : String → Bool → σ → Reply (List String) × σ
  unitDate : String → σ → Reply (Option Timestamp) × σ
  /-- Waits until the index has caught up. -/
  poll : σ → Reply Unit × σ

namespace World

def emitAll (events : List Event) : StateM (World σ) Unit :=
  events.forM emit

def askIndex {α : Type} (call : Call) (question : σ → Reply α × σ) : StateM (World σ) α := do
  let reply ← ask call question
  emitAll reply.events
  return reply.value

end World

namespace Scan

def visit {τ : Type} (visitor : Occurrence → τ → Flow × τ) : List Occurrence → τ → Flow × τ
  | [], t => (.proceed, t)
  | o :: rest, t =>
    match visitor o t with
    | (.stop, t) => (.stop, t)
    | (.proceed, t) => visit visitor rest t

/-- Hands the occurrences of a scan to a visitor, and closes the scan if it comes to its end. -/
def each {τ : Type} (scan : Scan) (visitor : Occurrence → τ → Flow × τ) (t : τ) :
    StateM (World σ) (Flow × τ) := do
  let (flow, t) := visit visitor scan.visited t
  if flow = .proceed then
    World.emitAll scan.closing
  return (flow, t)

end Scan

namespace RawIndex

def eachOccurrence {τ : Type} (index : RawIndex σ) (usr : String) (roles : Roles)
    (visitor : Occurrence → τ → Flow × τ) (t : τ) : StateM (World σ) (Flow × τ) := do
  let scan ← World.ask (.occurrences usr roles) (index.occurrences usr roles)
  scan.each visitor t

def eachContaining {τ : Type} (index : RawIndex σ) (pattern : String) (options : PatternOptions)
    (visitor : Occurrence → τ → Flow × τ) (t : τ) : StateM (World σ) (Flow × τ) := do
  let scan ← World.ask (.containing pattern) (index.containing pattern options)
  scan.each visitor t

def eachNamed {τ : Type} (index : RawIndex σ) (name : String)
    (visitor : Occurrence → τ → Flow × τ) (t : τ) : StateM (World σ) (Flow × τ) := do
  let scan ← World.ask (.named name) (index.named name)
  scan.each visitor t

/-- The visitor that never stops and keeps what it sees, latest first. -/
def collect (o : Occurrence) (seen : List Occurrence) : Flow × List Occurrence :=
  (.proceed, o :: seen)

def occurrencesOf (index : RawIndex σ) (usr : String) (roles : Roles) :
    StateM (World σ) (List Occurrence) := do
  let (_, seen) ← index.eachOccurrence usr roles collect []
  return seen.reverse

def relatedTo (index : RawIndex σ) (usr : String) (roles : Roles) :
    StateM (World σ) (List Occurrence) :=
  World.askIndex (.related usr roles) (index.related usr roles)

def symbolsIn (index : RawIndex σ) (path : String) : StateM (World σ) (List Symbol) :=
  World.askIndex (.symbols path) (index.symbols path)

def allUnitTests (index : RawIndex σ) : StateM (World σ) (List Occurrence) :=
  World.askIndex .unitTests index.unitTests

def unitTestsFor (index : RawIndex σ) (paths : List String) :
    StateM (World σ) (List Occurrence) :=
  World.askIndex (.unitTestsOf paths) (index.unitTestsOf paths)

def mainFilesOf (index : RawIndex σ) (path : String) (crossLanguage : Bool) :
    StateM (World σ) (List String) :=
  World.askIndex (.mainFiles path crossLanguage) (index.mainFiles path crossLanguage)

def latestUnitDate (index : RawIndex σ) (path : String) :
    StateM (World σ) (Option Timestamp) :=
  World.askIndex (.unitDate path) (index.unitDate path)

def waitForUnits (index : RawIndex σ) : StateM (World σ) Unit :=
  World.askIndex .poll index.poll

end RawIndex

end FreshIndex
