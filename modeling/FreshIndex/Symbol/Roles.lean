/-!
This module contains the roles in which symbols occur, and sets of roles. A set is kept as 64 bits;
bits that stand for no role known here are kept too, so that a set written by a newer indexer is not
lost.
-/

namespace FreshIndex

/-- How a symbol is used where it occurs, or how it is related to another symbol. -/
inductive Role
  | declaration
  | definition
  | reference
  | read
  | write
  | call
  | dynamic
  | addressOf
  | implicit
  | childOf
  | baseOf
  | overrideOf
  | receivedBy
  | calledBy
  | extendedBy
  | accessorOf
  | containedBy
  | interfaceTypeOf
  | specializationOf
  | canonical
  deriving Repr, DecidableEq

namespace Role

def all : List Role :=
  [declaration, definition, reference, read, write, call, dynamic, addressOf, implicit, childOf,
   baseOf, overrideOf, receivedBy, calledBy, extendedBy, accessorOf, containedBy, interfaceTypeOf,
   specializationOf, canonical]

def name : Role → String
  | declaration => "DECLARATION"
  | definition => "DEFINITION"
  | reference => "REFERENCE"
  | read => "READ"
  | write => "WRITE"
  | call => "CALL"
  | dynamic => "DYNAMIC"
  | addressOf => "ADDRESS_OF"
  | implicit => "IMPLICIT"
  | childOf => "CHILD_OF"
  | baseOf => "BASE_OF"
  | overrideOf => "OVERRIDE_OF"
  | receivedBy => "RECEIVED_BY"
  | calledBy => "CALLED_BY"
  | extendedBy => "EXTENDED_BY"
  | accessorOf => "ACCESSOR_OF"
  | containedBy => "CONTAINED_BY"
  | interfaceTypeOf => "IB_TYPE_OF"
  | specializationOf => "SPECIALIZATION_OF"
  | canonical => "CANONICAL"

/-- The place of the bit that stands for a role, from the lowest up. -/
def place (role : Role) : Nat :=
  all.idxOf role

theorem mem_all (role : Role) : role ∈ all := by
  cases role <;> decide

end Role

/-- A set of roles, one bit for each. -/
structure Roles where
  bits : UInt64
  deriving Repr, DecidableEq

namespace Roles

instance : Ord Roles where
  compare := compareOn bits

def empty : Roles := ⟨0⟩

def single (role : Role) : Roles := ⟨1 <<< role.place.toUInt64⟩

/-- A role stands for the set of it alone. -/
instance : Coe Role Roles where
  coe := single

def union (r s : Roles) : Roles := ⟨r.bits ||| s.bits⟩

def diff (r s : Roles) : Roles := ⟨r.bits &&& ~~~s.bits⟩

def intersects (r s : Roles) : Bool := r.bits &&& s.bits != 0

def all : Roles := ⟨~~~0⟩

end Roles

end FreshIndex
