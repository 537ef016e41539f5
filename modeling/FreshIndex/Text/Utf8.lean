/-!
This module contains the octets of a text, and the reading of octets as text. Octets that are not
valid UTF-8 are read with a replacement character for every longest run of octets that starts no
character, or starts one and does not finish it.
-/

namespace FreshIndex.Text

abbrev Octets := List UInt8

def octets (s : String) : Octets :=
  s.toByteArray.data.toList

theorem octets_inj {s t : String} : octets s = octets t ↔ s = t := by
  constructor
  · intro h
    apply String.toByteArray_inj.mp
    have hdata := Array.toList_inj.mp h
    cases hs : s.toByteArray
    cases ht : t.toByteArray
    simp_all
  · rintro rfl
    rfl

def replacement : Char := Char.ofNat 0xFFFD

namespace Lossy

/-- The second octets that can follow the first octet `lead` of a character of several octets. -/
def secondRange (lead : UInt8) : Nat × Nat :=
  if lead = 0xE0 then (0xA0, 0xBF)
  else if lead = 0xED then (0x80, 0x9F)
  else if lead = 0xF0 then (0x90, 0xBF)
  else if lead = 0xF4 then (0x80, 0x8F)
  else (0x80, 0xBF)

def following? (lead : UInt8) : Option Nat :=
  if lead < 0x80 then some 0
  else if 0xC2 ≤ lead ∧ lead ≤ 0xDF then some 1
  else if 0xE0 ≤ lead ∧ lead ≤ 0xEF then some 2
  else if 0xF0 ≤ lead ∧ lead ≤ 0xF4 then some 3
  else none

/-- How many of the octets `rest` continue the character that `lead` starts, at most `wanted`. -/
def continuing (lead : UInt8) (wanted : Nat) (rest : Octets) : Nat :=
  match wanted, rest with
  | wanted + 1, second :: more =>
    let (lo, hi) := secondRange lead
    if lo ≤ second.toNat ∧ second.toNat ≤ hi then
      1 + ((more.take wanted).takeWhile fun b => 0x80 ≤ b && b ≤ 0xBF).length
    else
      0
  | _, _ => 0

def codePoint (lead : UInt8) (rest : Octets) : Nat :=
  let payload :=
    match rest.length with
    | 0 => lead.toNat
    | 1 => lead.toNat % 0x20
    | 2 => lead.toNat % 0x10
    | _ => lead.toNat % 0x08
  rest.foldl (fun code b => code * 0x40 + b.toNat % 0x40) payload

/-- The first character read from `lead :: rest`, and how many octets of `rest` it uses. -/
def first (lead : UInt8) (rest : Octets) : Char × Nat :=
  match following? lead with
  | none => (replacement, 0)
  | some wanted =>
    let used := continuing lead wanted rest
    if used = wanted then
      (Char.ofNat (codePoint lead (rest.take used)), used)
    else
      (replacement, used)

def characters : (bs : Octets) → List Char
  | [] => []
  | lead :: rest =>
    let (c, used) := first lead rest
    c :: characters (rest.drop used)
termination_by bs => bs.length
decreasing_by simp only [List.length_drop, List.length_cons]; omega

end Lossy

/--
Where octets stop to be UTF-8: at a run that is no character, or before a character is finished.
-/
inductive Flaw
  | invalid (length index : Nat)
  | incomplete (index : Nat)
  deriving Repr, DecidableEq

def Flaw.message : Flaw → String
  | invalid length index =>
    "invalid utf-8 sequence of " ++ toString length ++ " bytes from index " ++ toString index
  | incomplete index => "incomplete utf-8 byte sequence from index " ++ toString index

/-- The first flaw of octets that are not valid UTF-8, if `index` octets stand before them. -/
def firstFlaw (index : Nat) : (bs : Octets) → Flaw
  | [] => .incomplete index
  | lead :: rest =>
    match Lossy.following? lead with
    | none => .invalid 1 index
    | some wanted =>
      let used := Lossy.continuing lead wanted rest
      if used = wanted then firstFlaw (index + 1 + used) (rest.drop used)
      else if used = rest.length then .incomplete index
      else .invalid (1 + used) index
termination_by bs => bs.length
decreasing_by simp only [List.length_drop, List.length_cons]; omega

/-- Octets that are not valid UTF-8. -/
structure Malformed where
  octets : Octets
  isMalformed : String.fromUTF8? ⟨octets.toArray⟩ = none
  deriving DecidableEq

instance : Repr Malformed where
  reprPrec m := reprPrec m.octets

/-- The text that `bs` spells, with replacement characters where `bs` spells none. -/
def ofOctets (bs : Octets) : String :=
  match String.fromUTF8? ⟨bs.toArray⟩ with
  | some s => s
  | none => String.ofList (Lossy.characters bs)

end FreshIndex.Text
