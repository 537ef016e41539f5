import FreshIndex.Number.Numeral

/-!
This module contains the proof that an integer which is written out is read as itself, and that what
is read stays within its limit.
-/

namespace FreshIndex.Numeral

theorem digit?_of_isDigit {c : Char} (h : c.isDigit = true) :
    digit? 10 c = some (c.toNat - '0'.toNat) := by
  have hbounds : '0' ≤ c ∧ c ≤ '9' := by
    simpa [Char.isDigit, Char.le_def] using h
  have hsmall : c.toNat - '0'.toNat < 10 := by
    have hle : c.toNat ≤ '9'.toNat := hbounds.2
    have hnine : '9'.toNat = 57 := rfl
    have hzero : '0'.toNat = 48 := rfl
    omega
  unfold digit?
  rw [if_pos hbounds, Option.filter_some, if_pos (decide_eq_true hsmall)]

theorem le_ofDigitChars (cs : List Char) (value : Nat) :
    value ≤ Nat.ofDigitChars 10 cs value := by
  induction cs generalizing value with
  | nil => exact Nat.le_refl _
  | cons c rest ih =>
    rw [Nat.ofDigitChars_cons]
    have hrest := ih (10 * value + (c.toNat - '0'.toNat))
    omega

theorem readDigits_eq_ok {limit : Nat} (overflow : NumeralError) (cs : List Char) (value : Nat)
    (hdigits : ∀ c ∈ cs, c.isDigit = true) (hlimit : Nat.ofDigitChars 10 cs value ≤ limit) :
    readDigits 10 limit overflow value cs = .ok (Nat.ofDigitChars 10 cs value) := by
  induction cs generalizing value with
  | nil => rfl
  | cons c rest ih =>
    rw [List.forall_mem_cons] at hdigits
    rw [Nat.ofDigitChars_cons] at hlimit ⊢
    have hvalue := Nat.le_trans (le_ofDigitChars rest _) hlimit
    rw [readDigits, digit?_of_isDigit hdigits.1]
    dsimp only
    rw [Nat.mul_comm value 10, if_pos hvalue]
    exact ih _ hdigits.2 hlimit

theorem readDigits_toDigits {limit n : Nat} (overflow : NumeralError) (h : n ≤ limit) :
    readDigits 10 limit overflow 0 (Nat.toDigits 10 n) = .ok n := by
  have hvalue : Nat.ofDigitChars 10 (Nat.toDigits 10 n) 0 = n :=
    Nat.ofDigitChars_toDigits (by decide) (by decide)
  have hlimit : Nat.ofDigitChars 10 (Nat.toDigits 10 n) 0 ≤ limit := by omega
  rw [readDigits_eq_ok overflow _ 0 _ hlimit, hvalue]
  intro c hc
  apply Nat.isDigit_of_mem_toDigits _ _ hc
  . decide
  . decide

theorem exists_toDigits (n : Nat) : ∃ c rest, Nat.toDigits 10 n = c :: rest ∧ c.isDigit = true := by
  cases hdigits : Nat.toDigits 10 n with
  | nil =>
    have hlength := @Nat.length_toDigits_pos 10 n
    simp [hdigits] at hlength
  | cons c rest =>
    refine ⟨c, rest, rfl, ?_⟩
    have hmem : c ∈ Nat.toDigits 10 n := by
      rw [hdigits]
      exact List.mem_cons_self
    apply Nat.isDigit_of_mem_toDigits _ _ hmem
    . decide
    . decide

/-- Without a sign in front, all of the text is read as digits. -/
theorem readInt_cons_digit (limit : Nat) {c : Char} (hc : c.isDigit = true) (rest : List Char) :
    readInt limit (c :: rest) = (readDigits 10 limit .tooLarge 0 (c :: rest)).map Int.ofNat := by
  have hplus : c ≠ '+' := by
    rintro rfl
    cases hc
  have hminus : c ≠ '-' := by
    rintro rfl
    cases hc
  unfold readInt readNat
  split <;> simp_all

theorem readInt_cons_minus (limit : Nat) (c : Char) (rest : List Char) :
    readInt limit ('-' :: c :: rest)
      = (readDigits 10 (limit + 1) .tooSmall 0 (c :: rest)).map fun n => -(n : Int) :=
  rfl

/-- An integer within the range is read as it was written. -/
theorem readInt_toString {limit : Nat} {i : Int} (hlow : -(limit + 1 : Int) ≤ i)
    (hhigh : i ≤ limit) : readInt limit (toString i).toList = .ok i := by
  cases i with
  | ofNat n =>
    obtain ⟨c, rest, hdigits, hc⟩ := exists_toDigits n
    have htext : (toString (Int.ofNat n)).toList = Nat.toDigits 10 n := String.toList_ofList
    have hn : n ≤ limit := Int.ofNat_le.mp hhigh
    rw [htext, hdigits, readInt_cons_digit limit hc rest, ← hdigits, readDigits_toDigits _ hn]
    rfl
  | negSucc m =>
    obtain ⟨c, rest, hdigits, _⟩ := exists_toDigits (m + 1)
    have htext : (toString (Int.negSucc m)).toList = '-' :: Nat.toDigits 10 (m + 1) := by
      change ("-" ++ String.ofList (Nat.toDigits 10 (m + 1))).toList = _
      rw [String.toList_append, String.toList_ofList, String.toList_ofList]
      rfl
    have hm : m + 1 ≤ limit + 1 := by omega
    rw [htext, hdigits, readInt_cons_minus, ← hdigits, readDigits_toDigits _ hm]
    rfl

theorem readDigits_le {base limit value n : Nat} {overflow : NumeralError} {cs : List Char}
    (hvalue : value ≤ limit) (h : readDigits base limit overflow value cs = .ok n) :
    n ≤ limit := by
  induction cs generalizing value with
  | nil =>
    cases h
    exact hvalue
  | cons c rest ih =>
    rw [readDigits] at h
    cases hdigit : digit? base c with
    | none =>
      rw [hdigit] at h
      cases h
    | some d =>
      rw [hdigit] at h
      by_cases hle : value * base + d ≤ limit
      . exact ih hle (by simpa [hle] using h)
      . simp [hle] at h

theorem readNat_le {base limit n : Nat} {cs : List Char} (h : readNat base limit cs = .ok n) :
    n ≤ limit := by
  unfold readNat at h
  split at h
  . cases h
  . cases h
  . exact readDigits_le (Nat.zero_le _) h
  . exact readDigits_le (Nat.zero_le _) h

theorem readInt_bounds {limit : Nat} {cs : List Char} {i : Int} (h : readInt limit cs = .ok i) :
    -(limit + 1 : Int) ≤ i ∧ i ≤ limit := by
  unfold readInt at h
  split at h
  . cases h
  . cases h
  . next digits _ =>
    cases hread : readDigits 10 (limit + 1) .tooSmall 0 digits with
    | error e =>
      rw [hread] at h
      cases h
    | ok n =>
      have hn := readDigits_le (Nat.zero_le _) hread
      rw [hread] at h
      have hi : -(n : Int) = i := Except.ok.inj h
      omega
  . cases hread : readNat 10 limit cs with
    | error e =>
      rw [hread] at h
      cases h
    | ok n =>
      have hn := readNat_le hread
      rw [hread] at h
      have hi : (n : Int) = i := Except.ok.inj h
      omega

end FreshIndex.Numeral
