import FreshIndex.Timestamp

/-!
This module contains moments as a clock has them, which counts whole seconds in words of 64 bits,
the spans of time between them, and what is stored of them. A clock does not have the moments whose
whole seconds do not fit in a word.
-/

namespace FreshIndex

open Timestamp (perSecond)

/-- A length of time: whole seconds, and nanoseconds that are less than a second. -/
structure Span where
  seconds : UInt64
  part : Nat
  part_lt : part < perSecond
  deriving DecidableEq

namespace Span

/-- The length in nanoseconds. -/
def count (d : Span) : BitVec 128 :=
  d.seconds.toBitVec.setWidth 128 * .ofNat 128 perSecond + .ofNat 128 d.part

def ofCount (n : UInt64) : Span where
  seconds := n / .ofNat perSecond
  part := n.toNat % perSecond
  part_lt := Nat.mod_lt _ (by decide)

end Span

/-- A moment: whole seconds from the start of 1970, and nanoseconds after the last of them. -/
@[ext]
structure ClockTime where
  seconds : Int64
  part : Nat
  part_lt : part < perSecond
  deriving DecidableEq

namespace ClockTime

instance : Ord ClockTime where
  compare := compareLex (compareOn seconds) (compareOn part)

def timestamp (t : ClockTime) : Timestamp :=
  ⟨t.seconds.toInt * perSecond + t.part⟩

def epoch : ClockTime where
  seconds := 0
  part := 0
  part_lt := by decide

/-- The span from a moment to one that is not before it. -/
def gap (earlier later : ClockTime) : Span :=
  have hearlier := earlier.part_lt
  have hlater := later.part_lt
  if h : earlier.part ≤ later.part then
    ⟨(later.seconds - earlier.seconds).toUInt64, later.part - earlier.part, by omega⟩
  else
    ⟨(later.seconds - 1 - earlier.seconds).toUInt64, later.part + perSecond - earlier.part,
      by omega⟩

/-- How long a moment is after another one, or else how long it is before it. -/
def since (t origin : ClockTime) : Except Span Span :=
  if (compare origin t).isLE then .ok (gap origin t) else .error (gap t origin)

/-- An integer as a word, if it fits. -/
def word? (i : Int) : Option Int64 :=
  if Int64.minValue.toInt ≤ i ∧ i ≤ Int64.maxValue.toInt then some (.ofInt i) else none

/-- The moment that is some seconds and nanoseconds later, or earlier if they are negative. -/
def moved? (t : ClockTime) (seconds part : Int) : Option ClockTime := do
  let whole ← word? (t.seconds.toInt + seconds)
  let rest := t.part + part
  return {
    seconds := ← word? (whole.toInt + rest / perSecond)
    part := (rest % perSecond).toNat
    part_lt := by
      rw [Int.toNat_lt (Int.emod_nonneg rest (by decide))]
      exact Int.emod_lt_of_pos rest (by decide) }

def add? (t : ClockTime) (d : Span) : Option ClockTime :=
  t.moved? d.seconds.toNat d.part

def sub? (t : ClockTime) (d : Span) : Option ClockTime :=
  t.moved? (-d.seconds.toNat) (-d.part)

/-- The stored form: the distance from the start of 1970, as far as the word reaches. -/
def toStored (t : ClockTime) : Int64 :=
  match t.since epoch with
  | .ok after => (word? after.count.toNat).getD Int64.maxValue
  | .error before => (word? before.count.toNat).elim Int64.minValue fun n => -n

def ofStored? (stored : Int64) : Option ClockTime :=
  let distance := Span.ofCount stored.abs.toUInt64
  if 0 ≤ stored then epoch.add? distance else epoch.sub? distance

end ClockTime

end FreshIndex
