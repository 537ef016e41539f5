import FreshIndex.Text.Percent

/-!
This module contains the proof that octets which are percent-encoded are read back, if a percent
sign is escaped too, and what characters an encoded text is made of.
-/

namespace FreshIndex.Text.Percent

variable {escaped : Char → Bool} {b : UInt8} {c : Char} {cs : List Char}

theorem digit?_hexDigit : ∀ n < 16, Numeral.digit? 16 (hexDigit n) = some n := by
  decide

theorem toNat_ofNat_octet (b : UInt8) : (Char.ofNat b.toNat).toNat = b.toNat := by
  have hb := b.toNat_lt
  have hvalid : b.toNat.isValidChar := .inl (by omega)
  unfold Char.ofNat
  rw [dif_pos hvalid]
  rfl

theorem utf8EncodeChar_of_lt (h : c.toNat < 0x80) :
    String.utf8EncodeChar c = [c.toNat.toUInt8] := by
  rw [String.utf8EncodeChar_eq_singleton]
  . rfl
  . rw [Char.utf8Size_eq_one_iff]
    exact Nat.le_of_lt_succ h

theorem decode_cons (h : c ≠ '%') (cs : List Char) :
    decode (c :: cs) = String.utf8EncodeChar c ++ decode cs := by
  rw [decode]
  rintro a b rest rfl
  cases h rfl

theorem decode_encodeOctet (h : escaped '%' = true) (b : UInt8) (cs : List Char) :
    decode (encodeOctet escaped b ++ cs) = b :: decode cs := by
  have hb := b.toNat_lt
  unfold encodeOctet
  dsimp only
  split
  . rw [List.cons_append, List.cons_append, List.cons_append, List.nil_append, decode,
      digit?_hexDigit _ (by omega), digit?_hexDigit _ (by omega)]
    dsimp only
    rw [Nat.div_add_mod']
    simp
  . rename_i hkept
    rw [Bool.not_eq_true, Bool.or_eq_false_iff, decide_eq_false_iff_not] at hkept
    obtain ⟨hascii, hkept⟩ := hkept
    have hne : Char.ofNat b.toNat ≠ '%' := by
      intro hpercent
      rw [hpercent, h] at hkept
      cases hkept
    have hlt : (Char.ofNat b.toNat).toNat < 0x80 := by
      rw [toNat_ofNat_octet]
      simpa [UInt8.le_iff_toNat_le] using hascii
    rw [List.singleton_append, decode_cons hne, utf8EncodeChar_of_lt hlt, toNat_ofNat_octet]
    simp

theorem decode_encodeOctets (h : escaped '%' = true) (bs : Octets) :
    decode (encodeOctets escaped bs) = bs := by
  unfold encodeOctets
  induction bs with
  | nil => rw [List.flatMap_nil, decode]
  | cons b rest ih => rw [List.flatMap_cons, decode_encodeOctet h, ih]

/-- An encoded text is ASCII, and what is in it is a code or need not be escaped. -/
theorem mem_encodeOctets {bs : Octets} (h : c ∈ encodeOctets escaped bs) :
    c = '%' ∨ (∃ n < 16, c = hexDigit n) ∨ c.toNat < 0x80 ∧ escaped c = false := by
  obtain ⟨b, _, hc⟩ := List.mem_flatMap.mp h
  have hb := b.toNat_lt
  unfold encodeOctet at hc
  dsimp only at hc
  split at hc
  . simp only [List.mem_cons, List.not_mem_nil, or_false] at hc
    rcases hc with rfl | rfl | rfl
    . exact .inl rfl
    . exact .inr (.inl ⟨_, by omega, rfl⟩)
    . exact .inr (.inl ⟨_, by omega, rfl⟩)
  . rename_i hkept
    rw [Bool.not_eq_true, Bool.or_eq_false_iff, decide_eq_false_iff_not] at hkept
    rw [List.mem_singleton] at hc
    rw [hc, toNat_ofNat_octet]
    refine .inr (.inr ⟨?_, hkept.2⟩)
    simpa [UInt8.le_iff_toNat_le] using hkept.1

theorem encode_eq_self (h : ∀ c ∈ cs, c.toNat < 0x80 ∧ escaped c = false) :
    encode escaped cs = cs := by
  unfold encode encodeOctets
  induction cs with
  | nil => rfl
  | cons c rest ih =>
    obtain ⟨⟨hlt, hkept⟩, hrest⟩ := List.forall_mem_cons.mp h
    have hoctet : c.toNat.toUInt8.toNat = c.toNat := by
      simp only [Nat.toUInt8, UInt8.toNat_ofNat']
      omega
    have hascii : ¬ (0x80 : UInt8) ≤ c.toNat.toUInt8 := by
      rw [UInt8.le_iff_toNat_le, hoctet]
      simpa using hlt
    rw [List.flatMap_cons, List.flatMap_append, ih hrest, utf8EncodeChar_of_lt hlt,
      List.flatMap_singleton, encodeOctet, hoctet, Char.ofNat_toNat, hkept,
      if_neg (by simp [hascii])]
    rfl

end FreshIndex.Text.Percent
