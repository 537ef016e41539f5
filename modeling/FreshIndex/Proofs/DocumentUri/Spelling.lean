import FreshIndex.DocumentUri
import FreshIndex.Proofs.FilePath.NormalForm
import FreshIndex.Proofs.Text.Utf8

/-!
This module contains which texts spell a path to one and the same document. Every text has a plain
spelling, which is all that is kept of it: texts mean one document if and only if they have the same
plain spelling, and no other text that means the document is plain.
-/

namespace FreshIndex

open Text FilePath

namespace Spelling

/-- What stands between the slashes of a text. -/
def parts (s : String) : List (List Char) :=
  s.toList.splitOn '/'

/-- The parts that lead to another place, which nothing and a single point do not. -/
def segments (s : String) : List (List Char) :=
  (parts s).filter fun part => part ≠ [] ∧ part ≠ ['.']

def startsAtRoot (s : String) : Bool :=
  s.toList.head? == some '/'

def plain (s : String) : String :=
  String.ofList ((if startsAtRoot s then ['/'] else []) ++ ['/'].intercalate (segments s))

structure IsPlain (s : String) : Prop where
  noPoint : ['.'] ∉ parts s
  noDoubleSlash : ¬ ['/', '/'] <:+: s.toList
  noSlashAtEnd : s.toList.getLast? = some '/' → s = "/"

variable {s t : String} {part : List Char}

theorem mem_segments (h : part ∈ segments s) : '/' ∉ part ∧ part ≠ [] ∧ part ≠ ['.'] := by
  obtain ⟨hmem, hstep⟩ := List.mem_filter.mp h
  exact ⟨notMem_of_mem_splitOn hmem, of_decide_eq_true hstep⟩

/-! ### Texts and their octets -/

theorem slash_notMem_flatMap (h : '/' ∉ part) : slash ∉ part.flatMap String.utf8EncodeChar := by
  rw [List.mem_flatMap]
  rintro ⟨c, hc, hslash⟩
  have htoNat : c.toNat = '/'.toNat := toNat_eq_of_mem_utf8EncodeChar (by decide) hslash
  rw [← Char.ofNat_toNat c, htoNat] at hc
  exact h hc

theorem splitOn_ofText (s : String) :
    (FilePath.ofText s).octets.splitOn slash
      = (parts s).map (·.flatMap String.utf8EncodeChar) := by
  have hslash : String.utf8EncodeChar '/' = [slash] := rfl
  have hoctets : (FilePath.ofText s).octets
      = [slash].intercalate ((parts s).map (·.flatMap String.utf8EncodeChar)) := by
    rw [← hslash, ← flatMap_intercalate, parts, List.intercalate_splitOn]
    exact octets_eq s
  rw [hoctets, List.splitOn_intercalate]
  . rw [List.forall_mem_map]
    intro part hpart
    exact slash_notMem_flatMap (notMem_of_mem_splitOn hpart)
  . rw [Ne, List.map_eq_nil_iff]
    exact List.splitOn_ne_nil '/' s.toList

theorem isIdle_flatMap :
    (!isIdle (part.flatMap String.utf8EncodeChar)) = decide (part ≠ [] ∧ part ≠ ['.']) := by
  have hnil : part.flatMap String.utf8EncodeChar = [] ↔ part = [] :=
    @flatMap_utf8EncodeChar_inj part []
  have hpoint : part.flatMap String.utf8EncodeChar = [point] ↔ part = ['.'] :=
    @flatMap_utf8EncodeChar_inj part ['.']
  rw [isIdle, Bool.eq_iff_iff, Bool.not_eq_true', Bool.or_eq_false_iff, beq_eq_false_iff_ne, Ne,
    hpoint, ← Bool.not_eq_true, List.isEmpty_iff, hnil, decide_eq_true_iff]

theorem names_ofText (s : String) :
    (FilePath.ofText s).names = (segments s).map (·.flatMap String.utf8EncodeChar) := by
  rw [FilePath.names, splitOn_ofText, List.filter_map, segments]
  apply congrArg
  apply List.filter_congr
  intro part _
  exact isIdle_flatMap

theorem names_ofText_inj :
    (FilePath.ofText s).names = (FilePath.ofText t).names ↔ segments s = segments t := by
  rw [names_ofText, names_ofText]
  apply List.map_inj_right
  intro part part'
  exact flatMap_utf8EncodeChar_inj.mp

theorem isAbsolute_ofText (s : String) : (FilePath.ofText s).isAbsolute = startsAtRoot s := by
  unfold FilePath.isAbsolute startsAtRoot FilePath.ofText
  rw [octets_eq]
  cases s.toList with
  | nil => rfl
  | cons c rest =>
    by_cases hc : c = '/'
    . rw [hc]
      rfl
    . have hslash : slash ∉ [c].flatMap String.utf8EncodeChar :=
        slash_notMem_flatMap (by simpa using Ne.symm hc)
      obtain ⟨b, bs, hb⟩ := List.exists_cons_of_ne_nil (String.utf8EncodeChar_ne_nil (c := c))
      rw [List.flatMap_singleton, hb, List.mem_cons, not_or] at hslash
      rw [List.flatMap_cons, hb]
      simp [hc, Ne.symm hslash.1]

/-- What is kept of a text as a path is the path of its plain spelling. -/
theorem normalize_ofText (s : String) :
    (FilePath.ofText s).normalize = FilePath.ofText (plain s) := by
  have hslash : String.utf8EncodeChar '/' = [slash] := rfl
  unfold FilePath.normalize ofNames FilePath.ofText
  rw [plain, octets_ofList, List.flatMap_append, flatMap_intercalate, hslash]
  change FilePath.mk ((if (FilePath.ofText s).isAbsolute then _ else _) ++
    [slash].intercalate (FilePath.ofText s).names) = _
  rw [isAbsolute_ofText, names_ofText]
  cases startsAtRoot s with
  | true => rfl
  | false => rfl

theorem startsAtRoot_plain (s : String) : startsAtRoot (plain s) = startsAtRoot s := by
  rw [← isAbsolute_ofText, ← normalize_ofText, isAbsolute_normalize, isAbsolute_ofText]

theorem segments_plain (s : String) : segments (plain s) = segments s := by
  rw [← names_ofText_inj, ← normalize_ofText, names_normalize]

/-! ### Plain spellings -/

theorem nil_mem_tail_splitOn {a b : List Char} :
    [] ∈ ((a ++ '/' :: '/' :: b).splitOn '/').tail := by
  obtain ⟨first, rest, ha⟩ := List.exists_cons_of_ne_nil (List.splitOn_ne_nil '/' a)
  have hb := List.splitOn_append_cons_self (a := '/') [] b
  rw [List.nil_append, List.splitOn_nil, List.singleton_append] at hb
  rw [List.splitOn_append_cons_self, ha, hb]
  simp

theorem infix_or_of_nil_mem_tail {ps : List (List Char)} (h : [] ∈ ps.tail) :
    ['/', '/'] <:+: ['/'].intercalate ps ∨ (['/'].intercalate ps).getLast? = some '/' := by
  induction ps with
  | nil => cases h
  | cons p ps ih =>
    rw [List.tail_cons] at h
    cases ps with
    | nil => cases h
    | cons q rest =>
      rw [List.intercalate_cons_cons]
      rcases List.mem_cons.mp h with rfl | h
      . cases rest with
        | nil => exact .inr (by simp)
        | cons r rest =>
          left
          rw [List.intercalate_cons_cons]
          exact ⟨p, ['/'].intercalate (r :: rest), by simp⟩
      . rcases ih h with hwithin | hlast
        . exact .inl (hwithin.trans (List.suffix_append _ _).isInfix)
        . exact .inr (by rw [List.getLast?_append, hlast]; rfl)

/-- No slash but the root's is left over if nothing stands between slashes or behind the last. -/
theorem isPlain_iff :
    IsPlain s ↔ ['.'] ∉ parts s ∧ ([] ∈ (parts s).tail → s = "/") := by
  constructor
  . rintro ⟨hpoint, hdouble, hend⟩
    refine ⟨hpoint, ?_⟩
    intro hnil
    have hslashes := infix_or_of_nil_mem_tail hnil
    rw [parts, List.intercalate_splitOn] at hslashes
    rcases hslashes with hwithin | hlast
    . exact absurd hwithin hdouble
    . exact hend hlast
  . rintro ⟨hpoint, hroot⟩
    refine ⟨hpoint, ?_, ?_⟩
    . rintro ⟨a, b, hs⟩
      have hnil : [] ∈ (parts s).tail := by
        rw [parts, ← hs, List.append_assoc]
        exact nil_mem_tail_splitOn
      rw [hroot hnil] at hs
      have hlength := congrArg List.length hs
      simp at hlength
      omega
    . intro hlast
      apply hroot
      obtain ⟨a, ha⟩ := List.getLast?_eq_some_iff.mp hlast
      obtain ⟨first, rest, hfirst⟩ := List.exists_cons_of_ne_nil (List.splitOn_ne_nil '/' a)
      rw [parts, ha, List.splitOn_append_cons_self, hfirst, List.splitOn_nil]
      simp

theorem parts_plain (h : segments s ≠ []) :
    parts (plain s) = (if startsAtRoot s then [[]] else []) ++ segments s := by
  have hplain : (plain s).toList
      = ['/'].intercalate ((if startsAtRoot s then [[]] else []) ++ segments s) := by
    obtain ⟨first, rest, hsegments⟩ := List.exists_cons_of_ne_nil h
    rw [plain, String.toList_ofList, hsegments]
    cases startsAtRoot s with
    | true =>
      rw [if_pos rfl, if_pos rfl, List.singleton_append, List.singleton_append,
        List.intercalate_cons_cons]
      rfl
    | false => rfl
  rw [parts, hplain, List.splitOn_intercalate]
  . intro part hpart
    rcases List.mem_append.mp hpart with hpart | hpart
    . split at hpart
      . rw [List.mem_singleton.mp hpart]
        exact List.not_mem_nil
      . cases hpart
    . exact (mem_segments hpart).1
  . simp [h]

theorem isPlain_plain (s : String) : IsPlain (plain s) := by
  rw [isPlain_iff]
  by_cases h : segments s = []
  . have hplain : plain s = if startsAtRoot s then "/" else "" := by
      rw [plain, h]
      cases startsAtRoot s with
      | true => rfl
      | false => rfl
    rw [hplain]
    cases startsAtRoot s with
    | true => exact ⟨by decide, fun _ => rfl⟩
    | false => exact ⟨by decide, by decide⟩
  . have htail : ∀ part ∈ (parts (plain s)).tail, part ∈ segments s := by
      rw [parts_plain h]
      cases startsAtRoot s with
      | true => exact fun part hpart => hpart
      | false => exact fun part hpart => List.mem_of_mem_tail hpart
    constructor
    . rw [parts_plain h, List.mem_append, not_or]
      refine ⟨?_, fun hpoint => (mem_segments hpoint).2.2 rfl⟩
      cases startsAtRoot s with
      | true => decide
      | false => exact List.not_mem_nil
    . intro hnil
      exact absurd rfl (mem_segments (htail [] hnil)).2.1

theorem startsAtRoot_of_parts {first : List Char} {rest : List (List Char)}
    (h : parts s = first :: rest) : startsAtRoot s = (first.isEmpty && !rest.isEmpty) := by
  have hjoined : ['/'].intercalate (parts s) = s.toList := List.intercalate_splitOn '/'
  have hfirst : first ∈ s.toList.splitOn '/' := by
    change first ∈ parts s
    rw [h]
    exact List.mem_cons_self
  have hslash := notMem_of_mem_splitOn hfirst
  unfold startsAtRoot
  rw [← hjoined, h]
  cases first with
  | nil =>
    cases rest with
    | nil => rfl
    | cons next rest => simp [List.intercalate_cons_cons]
  | cons c cs =>
    have hc : c ≠ '/' := by
      rintro rfl
      exact hslash List.mem_cons_self
    cases rest with
    | nil => simp [hc]
    | cons next rest => simp [List.intercalate_cons_cons, hc]

theorem plain_of_isPlain (h : IsPlain s) : plain s = s := by
  rw [isPlain_iff] at h
  obtain ⟨hpoint, hroot⟩ := h
  by_cases hs : s = "/"
  . rw [hs]
    rfl
  . obtain ⟨first, rest, hparts⟩ : ∃ first rest, parts s = first :: rest :=
      List.exists_cons_of_ne_nil (List.splitOn_ne_nil '/' s.toList)
    have hjoined : ['/'].intercalate (parts s) = s.toList := List.intercalate_splitOn '/'
    rw [hparts] at hpoint hroot hjoined
    have hkept : rest.filter (fun part => part ≠ [] ∧ part ≠ ['.']) = rest := by
      rw [List.filter_eq_self]
      intro part hpart
      rw [decide_eq_true_iff]
      constructor
      . rintro rfl
        exact hs (hroot hpart)
      . rintro rfl
        exact hpoint (List.mem_cons_of_mem first hpart)
    rw [← String.toList_inj, plain, String.toList_ofList, startsAtRoot_of_parts hparts, segments,
      hparts, ← hjoined]
    cases first with
    | nil =>
      rw [List.filter_cons_of_neg (by decide), hkept]
      cases rest with
      | nil => rfl
      | cons next rest =>
        rw [List.intercalate_cons_cons]
        rfl
    | cons c cs =>
      have hfirst : c :: cs ≠ ['.'] := fun hfirst => hpoint (hfirst ▸ List.mem_cons_self)
      have hstep : decide (c :: cs ≠ [] ∧ c :: cs ≠ ['.']) = true :=
        decide_eq_true ⟨List.cons_ne_nil c cs, hfirst⟩
      rw [List.filter_cons_of_pos (by exact hstep), hkept]
      rfl

theorem count_parts_plain (s : String) :
    (parts (plain s)).count ['.', '.'] = (parts s).count ['.', '.'] := by
  have hsegments (s : String) :
      (segments s).count ['.', '.'] = (parts s).count ['.', '.'] :=
    List.count_filter (by decide)
  rw [← hsegments, ← hsegments, segments_plain]

end Spelling

namespace DocumentUri

open Spelling

/--
A document at a path is known by the plain spelling of the path. It has the same names as every
other spelling, and no other spelling of a path to the document is plain.
-/
theorem ofPathText_canonical (s : String) :
    ofPathText s = file (.ofText (plain s)) ∧ (ofPathText s).pseudoPath = plain s ∧
      IsPlain (plain s) ∧ startsAtRoot (plain s) = startsAtRoot s ∧
      segments (plain s) = segments s ∧
      (parts (plain s)).count ['.', '.'] = (parts s).count ['.', '.'] ∧
      ofPathText (plain s) = ofPathText s ∧
      ∀ t, (ofPathText s = ofPathText t ↔
          startsAtRoot s = startsAtRoot t ∧ segments s = segments t) ∧
        (ofPathText s = ofPathText t → IsPlain t → t = plain s) := by
  have hfile (s : String) : ofPathText s = file (.ofText (plain s)) :=
    congrArg file (normalize_ofText s)
  have hsame (t : String) : ofPathText s = ofPathText t ↔
      startsAtRoot s = startsAtRoot t ∧ segments s = segments t := by
    rw [← isAbsolute_ofText, ← isAbsolute_ofText, ← names_ofText_inj, ← normalize_eq_iff]
    exact file.injEq _ _ ▸ Iff.rfl
  refine ⟨hfile s, ?_, isPlain_plain s, startsAtRoot_plain s, segments_plain s,
    count_parts_plain s, ?_, fun t => ⟨hsame t, ?_⟩⟩
  . rw [hfile]
    exact ofOctets_octets (plain s)
  . rw [eq_comm, hsame, startsAtRoot_plain, segments_plain]
    exact ⟨rfl, rfl⟩
  . intro heq hplain
    obtain ⟨hroot, hsegments⟩ := (hsame t).mp heq
    rw [← plain_of_isPlain hplain, plain, plain, hroot, hsegments]

example : plain "./a//../é/." = "a/../é" := by
  decide

end DocumentUri

end FreshIndex
