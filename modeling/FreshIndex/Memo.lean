/-!
This module contains memories of answers: what was found for a key is kept and found again.
-/

namespace FreshIndex

structure Memo (κ ν : Type) where
  entries : List (κ × ν)

namespace Memo

variable {κ ν : Type} [DecidableEq κ]

def empty : Memo κ ν := ⟨[]⟩

def get? (m : Memo κ ν) (k : κ) : Option ν :=
  m.entries.lookup k

def insert (m : Memo κ ν) (k : κ) (v : ν) : Memo κ ν :=
  ⟨(k, v) :: m.entries⟩

@[simp]
theorem get?_empty (k : κ) : (empty : Memo κ ν).get? k = none :=
  rfl

theorem get?_insert (m : Memo κ ν) (k l : κ) (v : ν) :
    (m.insert k v).get? l = if l = k then some v else m.get? l := by
  unfold get? insert
  rw [List.lookup_cons]
  by_cases h : l = k
  · simp [h]
  · simp [h, beq_eq_false_iff_ne.mpr h]

end Memo

end FreshIndex
