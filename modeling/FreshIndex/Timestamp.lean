/-!
This module contains moments in time, counted in nanoseconds from the start of 1970, and the 64-bit
form in which an index stores them. A moment out of the range of that form is stored as the nearest
moment within it.
-/

namespace FreshIndex

/-- A moment, by its distance from the start of 1970 in nanoseconds. -/
@[ext]
structure Timestamp where
  nanoseconds : Int
  deriving Repr, DecidableEq

namespace Timestamp

def perSecond : Nat := 1000000000

instance : Ord Timestamp where
  compare := compareOn nanoseconds

instance : LE Timestamp where
  le s t := s.nanoseconds ≤ t.nanoseconds

instance (s t : Timestamp) : Decidable (s ≤ t) :=
  inferInstanceAs (Decidable (s.nanoseconds ≤ t.nanoseconds))

instance : Max Timestamp where
  max s t := if s ≤ t then t else s

def toStored (t : Timestamp) : Int64 :=
  .ofInt (max Int64.minValue.toInt (min t.nanoseconds Int64.maxValue.toInt))

def ofStored (stored : Int64) : Timestamp :=
  ⟨stored.toInt⟩

/-- Whether a moment is within the range of the stored form. -/
def IsStorable (t : Timestamp) : Prop :=
  Int64.minValue.toInt ≤ t.nanoseconds ∧ t.nanoseconds ≤ Int64.maxValue.toInt

theorem toInt_toStored (t : Timestamp) :
    t.toStored.toInt = max Int64.minValue.toInt (min t.nanoseconds Int64.maxValue.toInt) := by
  apply Int64.toInt_ofInt_of_le
  . exact Int.le_max_left _ _
  . have hmin : Int64.minValue.toInt < 2 ^ 63 := by decide
    have hmax : Int64.maxValue.toInt < 2 ^ 63 := by decide
    omega

theorem le_def {s t : Timestamp} : s ≤ t ↔ s.nanoseconds ≤ t.nanoseconds :=
  Iff.rfl

theorem le_max_left {s t : Timestamp} : s ≤ max s t := by
  change s ≤ if s ≤ t then t else s
  split
  . assumption
  . exact Int.le_refl _

theorem le_max_of_le_right {r s t : Timestamp} (h : r ≤ t) : r ≤ max s t := by
  change r ≤ if s ≤ t then t else s
  split
  . exact h
  . rename_i hlt
    rw [le_def] at h hlt ⊢
    omega

theorem max_eq_or (s t : Timestamp) : max s t = s ∨ max s t = t := by
  change (if s ≤ t then t else s) = s ∨ (if s ≤ t then t else s) = t
  split
  . exact .inr rfl
  . exact .inl rfl

end Timestamp

end FreshIndex
