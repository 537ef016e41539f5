import FreshIndex.Timestamp.Clock

/-!
This module contains the proof that moments are stored exactly. Clocks compare as the moments that
they show, no step of the conversion leaves its word, and a moment within the range of the stored
form is read back as itself.
-/

namespace FreshIndex

open Std
open Timestamp (perSecond)

theorem Timestamp.perSecond_eq : perSecond = 1000000000 :=
  rfl

namespace Span

theorem toNat_count (d : Span) : d.count.toNat = d.seconds.toNat * perSecond + d.part := by
  have hseconds := d.seconds.toNat_lt
  have hpart := d.part_lt
  unfold count
  rw [Timestamp.perSecond_eq] at hpart ⊢
  rw [BitVec.toNat_add, BitVec.toNat_mul, BitVec.toNat_setWidth, BitVec.toNat_ofNat,
    BitVec.toNat_ofNat, UInt64.toNat_toBitVec]
  omega

theorem toNat_count_ofCount (n : UInt64) : (ofCount n).count.toNat = n.toNat := by
  rw [toNat_count]
  unfold ofCount
  rw [UInt64.toNat_div]
  exact Nat.div_add_mod' n.toNat perSecond

end Span

namespace ClockTime

variable {s t u : ClockTime} {d : Span}

theorem nanoseconds_timestamp (t : ClockTime) :
    t.timestamp.nanoseconds = t.seconds.toInt * 1000000000 + t.part :=
  rfl

/-! ### Order -/

theorem compare_timestamp (s t : ClockTime) : compare s.timestamp t.timestamp = compare s t := by
  have hs := s.part_lt
  have ht := t.part_lt
  rw [Timestamp.perSecond_eq] at hs ht
  change compare s.timestamp.nanoseconds t.timestamp.nanoseconds
    = (compare s.seconds t.seconds).then (compare s.part t.part)
  rw [nanoseconds_timestamp, nanoseconds_timestamp]
  cases hseconds : compare s.seconds t.seconds with
  | lt =>
    rw [compare_eq_lt, Int64.lt_iff_toInt_lt] at hseconds
    rw [Ordering.lt_then, compare_eq_lt]
    omega
  | eq =>
    rw [LawfulEqOrd.compare_eq_iff_eq] at hseconds
    rw [Ordering.eq_then, hseconds]
    cases hpart : compare s.part t.part with
    | lt =>
      rw [compare_eq_lt] at hpart ⊢
      omega
    | eq =>
      rw [LawfulEqOrd.compare_eq_iff_eq] at hpart ⊢
      omega
    | gt =>
      rw [compare_eq_gt] at hpart ⊢
      omega
  | gt =>
    rw [compare_eq_gt, Int64.lt_iff_toInt_lt] at hseconds
    rw [Ordering.gt_then, compare_eq_gt]
    omega

theorem isLE_iff : (compare s t).isLE ↔ s.timestamp ≤ t.timestamp := by
  rw [← compare_timestamp]
  exact LawfulOrderOrd.isLE_compare s.timestamp.nanoseconds t.timestamp.nanoseconds

/-! ### Distances -/

theorem toNat_sub_seconds {a b : Int64} (h : a ≤ b) :
    ((b - a).toUInt64.toNat : Int) = b.toInt - a.toInt := by
  have ha := a.toInt_toBitVec
  have hb := b.toInt_toBitVec
  have ha' := a.toBitVec.isLt
  have hb' := b.toBitVec.isLt
  rw [Int64.le_iff_toInt_le] at h
  rw [BitVec.toInt_eq_toNat_cond] at ha hb
  rw [← UInt64.toNat_toBitVec, Int64.toBitVec_toUInt64, Int64.toBitVec_sub, BitVec.toNat_sub]
  omega

/-- The distance between two moments fits in a span. -/
theorem toNat_count_gap (h : (compare s t).isLE) :
    ((gap s t).count.toNat : Int) = t.timestamp.nanoseconds - s.timestamp.nanoseconds := by
  have hs := s.part_lt
  have ht := t.part_lt
  rw [Timestamp.perSecond_eq] at hs ht
  rw [isLE_iff, Timestamp.le_def, nanoseconds_timestamp, nanoseconds_timestamp] at h
  rw [Span.toNat_count, nanoseconds_timestamp, nanoseconds_timestamp]
  unfold gap
  dsimp only
  split
  . have hle : s.seconds ≤ t.seconds := by
      rw [Int64.le_iff_toInt_le]
      omega
    have hseconds := toNat_sub_seconds hle
    dsimp only
    rw [Timestamp.perSecond_eq]
    omega
  . -- The parts borrow a second, which the later moment has to spare.
    have hlt : s.seconds.toInt < t.seconds.toInt := by omega
    have hone : (t.seconds - 1).toInt = t.seconds.toInt - 1 := by
      have hfirst := s.seconds.le_toInt
      have hlast := t.seconds.toInt_lt
      rw [Int64.toInt_sub, Int64.toInt_one]
      exact Int.bmod_eq_of_le (by omega) (by omega)
    have hle : s.seconds ≤ t.seconds - 1 := by
      rw [Int64.le_iff_toInt_le]
      omega
    have hseconds := toNat_sub_seconds hle
    dsimp only
    rw [Timestamp.perSecond_eq]
    omega

/-- The side of the start of 1970 that a moment is on, and how far it is from there. -/
theorem since_epoch (t : ClockTime) :
    (∃ d, t.since epoch = .ok d ∧ t.timestamp.nanoseconds = d.count.toNat) ∨
      ∃ d, t.since epoch = .error d ∧ t.timestamp.nanoseconds = -d.count.toNat := by
  have hepoch : epoch.timestamp.nanoseconds = 0 := rfl
  unfold since
  by_cases hafter : (compare epoch t).isLE
  . left
    have hcount := toNat_count_gap hafter
    rw [if_pos hafter]
    exact ⟨gap epoch t, rfl, by omega⟩
  . right
    have hbefore : (compare t epoch).isLE := by
      rw [isLE_iff, Timestamp.le_def] at hafter ⊢
      omega
    have hcount := toNat_count_gap hbefore
    rw [if_neg hafter]
    exact ⟨gap t epoch, rfl, by omega⟩

/-! ### Stored moments -/

theorem word?_eq_some_iff {i : Int} {w : Int64} : word? i = some w ↔ w.toInt = i := by
  unfold word?
  constructor
  . intro h
    split at h
    . next hfits =>
      cases h
      have hmax : Int64.maxValue.toInt < 2 ^ 63 := by decide
      exact Int64.toInt_ofInt_of_le hfits.1 (Int.lt_of_le_of_lt hfits.2 hmax)
    . cases h
  . rintro rfl
    rw [if_pos ⟨w.minValue_le_toInt, w.toInt_le⟩, Int64.ofInt_toInt]

theorem word?_eq_none_iff {i : Int} :
    word? i = none ↔ i < Int64.minValue.toInt ∨ Int64.maxValue.toInt < i := by
  unfold word?
  split
  . next hfits => exact iff_of_false nofun (by omega)
  . next hfits => exact iff_of_true rfl (by omega)

theorem toInt_toStored (t : ClockTime) :
    t.toStored.toInt
      = max Int64.minValue.toInt (min t.timestamp.nanoseconds Int64.maxValue.toInt) := by
  have hmin : Int64.minValue.toInt = -2 ^ 63 := rfl
  have hmax : Int64.maxValue.toInt = 2 ^ 63 - 1 := rfl
  unfold toStored
  rcases since_epoch t with ⟨d, hsince, hcount⟩ | ⟨d, hsince, hcount⟩
  . rw [hsince, hcount]
    dsimp only
    cases hword : word? d.count.toNat with
    | none =>
      rw [word?_eq_none_iff] at hword
      rw [Option.getD_none]
      omega
    | some n =>
      have hn := n.toInt_le
      rw [word?_eq_some_iff] at hword
      rw [Option.getD_some]
      omega
  . rw [hsince, hcount]
    dsimp only
    cases hword : word? d.count.toNat with
    | none =>
      rw [word?_eq_none_iff] at hword
      rw [Option.elim_none]
      omega
    | some n =>
      have hn := n.toInt_lt
      rw [word?_eq_some_iff] at hword
      have hneg : (-n).toInt = -n.toInt := by
        rw [Int64.toInt_neg]
        exact Int.bmod_eq_of_le (by omega) (by omega)
      rw [Option.elim_some]
      omega

/-- A moment that a clock can come to is reached, on whichever side of the second it is. -/
theorem moved?_eq_some_iff {seconds part : Int}
    (h : 0 ≤ seconds ∧ 0 ≤ part ∨ seconds ≤ 0 ∧ part ≤ 0) :
    t.moved? seconds part = some u ↔
      u.timestamp.nanoseconds
        = t.timestamp.nanoseconds + (seconds * 1000000000 + part) := by
  have hu := u.part_lt
  have ht := t.part_lt
  have hfirst := t.seconds.minValue_le_toInt
  have hlast := t.seconds.toInt_le
  have hfirst' := u.seconds.minValue_le_toInt
  have hlast' := u.seconds.toInt_le
  rw [Timestamp.perSecond_eq] at hu ht
  rw [nanoseconds_timestamp, nanoseconds_timestamp]
  unfold moved?
  cases hwhole : word? (t.seconds.toInt + seconds) with
  | none =>
    rw [word?_eq_none_iff] at hwhole
    refine iff_of_false nofun ?_
    omega
  | some whole =>
    rw [word?_eq_some_iff] at hwhole
    dsimp only [bind, Option.bind, pure]
    cases hcarried : word? (whole.toInt + (t.part + part) / perSecond) with
    | none =>
      rw [word?_eq_none_iff, Timestamp.perSecond_eq] at hcarried
      refine iff_of_false nofun ?_
      omega
    | some carried =>
      rw [word?_eq_some_iff, Timestamp.perSecond_eq] at hcarried
      rw [Option.some.injEq, ClockTime.ext_iff, ← Int64.toInt_inj]
      dsimp only
      rw [Timestamp.perSecond_eq]
      omega

theorem toNat_toUInt64_abs (n : Int64) : n.abs.toUInt64.toNat = n.toInt.natAbs := by
  have hn := n.toBitVec.isLt
  rw [← UInt64.toNat_toBitVec, Int64.toBitVec_toUInt64, Int64.toBitVec_abs, BitVec.toNat_abs,
    ← Int64.toInt_toBitVec, BitVec.toInt_eq_msb_cond]
  split
  . omega
  . omega

theorem ofStored?_eq_some_iff {stored : Int64} :
    ofStored? stored = some t ↔ t.timestamp = .ofStored stored := by
  have hcount := Span.toNat_count_ofCount stored.abs.toUInt64
  rw [Span.toNat_count, toNat_toUInt64_abs, Timestamp.perSecond_eq] at hcount
  have hepoch : epoch.timestamp.nanoseconds = 0 := rfl
  have hzero : (0 : Int64).toInt = 0 := rfl
  rw [Timestamp.ext_iff]
  unfold ofStored? add? sub? Timestamp.ofStored
  dsimp only
  split
  . next hsign =>
    rw [Int64.le_iff_toInt_le] at hsign
    rw [moved?_eq_some_iff (by omega)]
    omega
  . next hsign =>
    rw [Int64.le_iff_toInt_le] at hsign
    rw [moved?_eq_some_iff (by omega)]
    omega

/-- The stored form has only moments that a clock has. -/
theorem exists_ofStored (stored : Int64) : ∃ t : ClockTime, t.timestamp = .ofStored stored := by
  have hfirst := stored.minValue_le_toInt
  have hlast := stored.toInt_le
  have hmin : Int64.minValue.toInt ≤ 0 := by decide
  have hmax : 0 ≤ Int64.maxValue.toInt := by decide
  obtain ⟨seconds, hseconds⟩ : ∃ seconds, word? (stored.toInt / 1000000000) = some seconds := by
    rw [← Option.isSome_iff_exists, ← Option.ne_none_iff_isSome, Ne, word?_eq_none_iff]
    omega
  rw [word?_eq_some_iff] at hseconds
  refine ⟨⟨seconds, (stored.toInt % 1000000000).toNat, ?_⟩, ?_⟩
  . rw [Timestamp.perSecond_eq]
    omega
  . rw [Timestamp.ext_iff, nanoseconds_timestamp]
    unfold Timestamp.ofStored
    dsimp only
    omega

theorem toInt_toStored_of_isStorable (h : t.timestamp.IsStorable) :
    t.toStored.toInt = t.timestamp.nanoseconds := by
  obtain ⟨hfirst, hlast⟩ := h
  rw [toInt_toStored]
  omega

theorem compare_toStored (hs : s.timestamp.IsStorable) (ht : t.timestamp.IsStorable) :
    compare s.toStored t.toStored = compare s t := by
  rw [← compare_timestamp]
  change _ = compare s.timestamp.nanoseconds t.timestamp.nanoseconds
  rw [← toInt_toStored_of_isStorable hs, ← toInt_toStored_of_isStorable ht]
  cases horder : compare s.toStored.toInt t.toStored.toInt with
  | lt =>
    rw [compare_eq_lt] at horder ⊢
    exact Int64.lt_iff_toInt_lt.mpr horder
  | eq =>
    rw [LawfulEqOrd.compare_eq_iff_eq] at horder ⊢
    exact Int64.toInt_inj.mp horder
  | gt =>
    rw [compare_eq_gt] at horder ⊢
    exact Int64.lt_iff_toInt_lt.mpr horder

/--
What is stored of a moment is its distance from the start of 1970 in nanoseconds, or the end of the
range that is next to it. In between, a clock has the moment of every stored form, and what is
stored compares as the moments do. The distance never leaves the words it is counted in.
-/
theorem stored_exactly :
    (∀ stored, ∃ t, ofStored? stored = some t ∧ t.timestamp = .ofStored stored ∧
      t.toStored = stored) ∧
    (∀ t : ClockTime, t.toStored = t.timestamp.toStored ∧ t.toStored.toInt
      = max Int64.minValue.toInt (min t.timestamp.nanoseconds Int64.maxValue.toInt)) ∧
    (∀ t : ClockTime, match t.since epoch with
      | .ok after => t.timestamp.nanoseconds = after.count.toNat
      | .error before => t.timestamp.nanoseconds = -before.count.toNat) ∧
    (∀ s t : ClockTime, (compare s t).isLE → s.toStored ≤ t.toStored) ∧
    (∀ t : ClockTime, t.timestamp.IsStorable → ofStored? t.toStored = some t) ∧
    (∀ s t : ClockTime, compare s.timestamp t.timestamp = compare s t) ∧
    ∀ s t : ClockTime, s.timestamp.IsStorable → t.timestamp.IsStorable →
      compare s.toStored t.toStored = compare s t := by
  refine ⟨?_, ?_, ?_, ?_, ?_, compare_timestamp, fun s t => compare_toStored⟩
  . intro stored
    obtain ⟨t, ht⟩ := exists_ofStored stored
    refine ⟨t, ofStored?_eq_some_iff.mpr ht, ht, ?_⟩
    have hfirst := stored.minValue_le_toInt
    have hlast := stored.toInt_le
    rw [← Int64.toInt_inj, toInt_toStored, ht]
    unfold Timestamp.ofStored
    dsimp only
    omega
  . intro t
    refine ⟨?_, toInt_toStored t⟩
    rw [← Int64.toInt_inj, toInt_toStored, Timestamp.toInt_toStored]
  . intro t
    rcases since_epoch t with ⟨d, hsince, hcount⟩ | ⟨d, hsince, hcount⟩
    . rw [hsince]
      exact hcount
    . rw [hsince]
      exact hcount
  . intro s t h
    rw [isLE_iff, Timestamp.le_def] at h
    rw [Int64.le_iff_toInt_le, toInt_toStored, toInt_toStored]
    omega
  . intro t h
    rw [ofStored?_eq_some_iff, Timestamp.ext_iff]
    exact (toInt_toStored_of_isStorable h).symm

end ClockTime

end FreshIndex
