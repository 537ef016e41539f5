import FreshIndex.FirstByKey
import FreshIndex.RawIndex

/-!
This module contains the index that is kept in lists and answers every question by going through
them in order.
-/

namespace FreshIndex

variable {σ : Type}

structure Inclusion where
  file : String
  mainFile : String
  crossLanguage : Bool
  deriving Repr, DecidableEq

/--
An index as lists: what occurs, which main files were built when, what they include, and tests.
-/
structure ListedIndex where
  occurrences : List Occurrence
  units : List (String × Timestamp)
  inclusions : List Inclusion
  unitTests : List (Occurrence × String)
  deriving Repr

namespace ListedIndex

def empty : ListedIndex := ⟨[], [], [], []⟩

def append (i j : ListedIndex) : ListedIndex where
  occurrences := i.occurrences ++ j.occurrences
  units := i.units ++ j.units
  inclusions := i.inclusions ++ j.inclusions
  unitTests := i.unitTests ++ j.unitTests

def isOf (usr : String) (roles : Roles) (o : Occurrence) : Bool :=
  o.symbol.usr == usr && o.roles.intersects roles

def isRelatedTo (usr : String) (roles : Roles) (o : Occurrence) : Bool :=
  o.relations.any fun r => r.symbol.usr == usr && r.roles.intersects roles

def symbolsIn (i : ListedIndex) (path : String) : List Symbol :=
  firstByKey Symbol.usr ((i.occurrences.filter (·.location.path == path)).map (·.symbol))

/-- The main files that include a path; a main file includes itself. -/
def mainFilesOf (i : ListedIndex) (path : String) (crossLanguage : Bool) : List String :=
  let itself := if i.units.any (·.1 == path) then [path] else []
  let including := i.inclusions.filter fun n =>
    n.file == path && (crossLanguage || !n.crossLanguage)
  firstByKey id (itself ++ including.map (·.mainFile))

def latestUnitDate (i : ListedIndex) (path : String) : Option Timestamp :=
  ((i.units.filter (·.1 == path)).map (·.2)).foldl
    (fun latest t => some (latest.elim t (max · t))) none

def toRawIndex (lists : σ → ListedIndex) : RawIndex σ where
  occurrences usr roles s := (⟨(lists s).occurrences.filter (isOf usr roles), []⟩, s)
  related usr roles s := (⟨(lists s).occurrences.filter (isRelatedTo usr roles), []⟩, s)
  containing pattern options s :=
    (⟨(lists s).occurrences.filter fun o =>
      o.roles.intersects Role.canonical && Pattern.accepts options pattern o.symbol.name, []⟩, s)
  named name s :=
    (⟨(lists s).occurrences.filter fun o =>
      o.roles.intersects Role.canonical && o.symbol.name == name, []⟩, s)
  symbols path s := (⟨(lists s).symbolsIn path, []⟩, s)
  unitTests s := (⟨(lists s).unitTests.map (·.1), []⟩, s)
  unitTestsOf paths s :=
    (⟨((lists s).unitTests.filter (paths.contains ·.2)).map (·.1), []⟩, s)
  mainFiles path crossLanguage s := (⟨(lists s).mainFilesOf path crossLanguage, []⟩, s)
  unitDate path s := (⟨(lists s).latestUnitDate path, []⟩, s)
  poll s := (⟨(), []⟩, s)

end ListedIndex

end FreshIndex
