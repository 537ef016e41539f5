import Mathlib.Data.String.Basic
import FreshIndex.Text.Utf8

/-!
This module contains what octets keep of the text that they spell: its characters, the places where
an ASCII character stands, and its place in the order of texts.
-/

namespace FreshIndex.Text

variable {c d : Char} {cs ds : List Char} {s t : String}

theorem octets_ofList (cs : List Char) :
    octets (String.ofList cs) = cs.flatMap String.utf8EncodeChar := by
  unfold octets
  rw [String.toByteArray_ofList, List.utf8Encode]
  simp

theorem octets_eq (s : String) : octets s = s.toList.flatMap String.utf8EncodeChar := by
  rw [← octets_ofList, String.ofList_toList]

theorem flatMap_utf8EncodeChar_inj :
    cs.flatMap String.utf8EncodeChar = ds.flatMap String.utf8EncodeChar ↔ cs = ds := by
  rw [← octets_ofList, ← octets_ofList, octets_inj, String.ofList_inj]

theorem ofOctets_octets (s : String) : ofOctets (octets s) = s := by
  have hread : String.fromUTF8? ⟨(octets s).toArray⟩ = some s := by
    have hoctets : (⟨(octets s).toArray⟩ : ByteArray) = s.toByteArray := rfl
    rw [hoctets, String.fromUTF8?, dif_pos s.isValidUTF8]
    rfl
  unfold ofOctets
  rw [hread]

/-! ### Places -/

/-- The octet of an ASCII character is part of no other character. -/
theorem toNat_eq_of_mem_utf8EncodeChar {b : UInt8} (hb : b < 0x80)
    (h : b ∈ String.utf8EncodeChar c) : c.toNat = b.toNat := by
  have hascii : b.toNat < 0x80 := hb
  unfold String.utf8EncodeChar at h
  dsimp only at h
  repeat' split at h
  all_goals
    simp only [List.mem_cons, List.not_mem_nil, or_false, ← UInt8.toNat_inj,
      UInt8.toNat_ofNat'] at h
    change c.val.toNat = _
    omega

theorem flatMap_intercalate {α β : Type} (f : α → List β) (x : α) (parts : List (List α)) :
    ([x].intercalate parts).flatMap f = (f x).intercalate (parts.map (·.flatMap f)) := by
  induction parts with
  | nil => rfl
  | cons part rest ih =>
    cases rest with
    | nil => simp
    | cons next rest =>
      rw [List.intercalate_cons_cons, List.flatMap_append, List.flatMap_append, ih,
        List.flatMap_singleton, List.map_cons, List.map_cons, List.map_cons,
        List.intercalate_cons_cons]

/-! ### Order -/

theorem digit_lt {n m : Nat} (h : n < m) :
    n / 64 < m / 64 ∨ n / 64 = m / 64 ∧ n % 64 < m % 64 := by
  omega

/-- The first digit to the base 64 in which two numbers differ tells their order. -/
theorem digits_lt {n m : Nat} (h : n < m) (hm : m < 2097152) :
    n / 262144 % 8 < m / 262144 % 8 ∨ n / 262144 % 8 = m / 262144 % 8 ∧
      (n / 4096 % 64 < m / 4096 % 64 ∨ n / 4096 % 64 = m / 4096 % 64 ∧
        (n / 64 % 64 < m / 64 % 64 ∨ n / 64 % 64 = m / 64 % 64 ∧ n % 64 < m % 64)) := by
  rcases digit_lt h with h | ⟨_, h⟩
  . rcases digit_lt h with h | ⟨_, h⟩
    . rcases digit_lt h with h | ⟨_, h⟩
      . omega
      . omega
    . omega
  . omega

/-- The first octet in which two characters differ tells their order. -/
theorem utf8EncodeChar_append_lt (h : c < d) (xs ys : Octets) :
    String.utf8EncodeChar c ++ xs < String.utf8EncodeChar d ++ ys := by
  have hlt : c.val.toNat < d.val.toNat := h
  have hd : d.val.toNat < 2097152 := by
    rcases d.valid with hd | hd
    . exact Nat.lt_trans hd (by decide)
    . exact Nat.lt_trans hd.2 (by decide)
  unfold String.utf8EncodeChar
  dsimp only
  generalize c.val.toNat = n at hlt ⊢
  generalize d.val.toNat = m at hlt hd ⊢
  by_cases hn : n ≤ 0xFFFF
  -- The first octet tells of how many octets a character is, and more octets mean a larger one.
  . repeat' split
    all_goals
      simp only [List.cons_append, List.nil_append, List.cons_lt_cons_iff, UInt8.lt_iff_toNat_lt,
        ← UInt8.toNat_inj, UInt8.toNat_ofNat']
      omega
  . have hdigits := digits_lt hlt hd
    rw [if_neg (by omega), if_neg (by omega), if_neg hn, if_neg (by omega), if_neg (by omega),
      if_neg (by omega)]
    simp only [List.cons_append, List.nil_append, List.cons_lt_cons_iff, UInt8.lt_iff_toNat_lt,
      ← UInt8.toNat_inj, UInt8.toNat_ofNat', Nat.reducePow]
    simp (disch := omega) only [Nat.mod_eq_of_lt (b := 256), Nat.add_lt_add_iff_right,
      Nat.add_right_cancel_iff]
    exact hdigits.imp_right <| .imp_right <| .imp_right <| .imp_right <| .imp_right <|
      .imp_right .inl

theorem flatMap_utf8EncodeChar_lt (h : cs < ds) :
    cs.flatMap String.utf8EncodeChar < ds.flatMap String.utf8EncodeChar := by
  induction cs generalizing ds with
  | nil =>
    cases ds with
    | nil => cases h
    | cons d ds =>
      obtain ⟨b, bs, hb⟩ := List.exists_cons_of_ne_nil (String.utf8EncodeChar_ne_nil (c := d))
      rw [List.flatMap_cons, hb]
      exact List.nil_lt_cons _ _
  | cons c cs ih =>
    cases ds with
    | nil => cases h
    | cons d ds =>
      rw [List.flatMap_cons, List.flatMap_cons]
      rcases List.cons_lt_cons_iff.mp h with hlt | ⟨rfl, hlt⟩
      . exact utf8EncodeChar_append_lt hlt _ _
      . exact List.append_left_lt (ih hlt)

theorem octets_lt_octets (h : s < t) : octets s < octets t := by
  rw [octets_eq, octets_eq]
  exact flatMap_utf8EncodeChar_lt (String.lt_iff_toList_lt.mp h)

end FreshIndex.Text
