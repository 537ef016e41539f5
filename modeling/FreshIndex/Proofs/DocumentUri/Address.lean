import FreshIndex.FileTree.Snapshot
import FreshIndex.Proofs.Checker.Edits
import FreshIndex.Proofs.FilePath.NormalForm
import FreshIndex.Proofs.Url.DotSegment
import FreshIndex.Proofs.Url.FileAddress

/-!
This module contains which document an editor means by the address of a file, where the file is that
at an absolute path of an index. It is the one that the index means, unless the path leads upwards:
the address is read without `..`, and the path keeps it.
-/

namespace FreshIndex

open Text FilePath

namespace DocumentUri

/-- The address of the file at a path: each segment of the path is percent-encoded. -/
def addressOf (escaped : Char → Bool) (p : FilePath) : String :=
  "file://" ++ String.ofList
    (['/'].intercalate ((p.octets.splitOn slash).map (Percent.encodeOctets escaped)))

variable {escaped : Char → Bool} {c : Char} {s : List Char} {segments : List (List Char)}
  {bs q : Octets} {p : FilePath}

/-- What a segment cannot hold as it is, if it is to be read back as one segment, is escaped. -/
def Escapes (escaped : Char → Bool) : Prop :=
  ∀ c, Percent.segment c = true → escaped c = true

namespace Escapes

theorem percent (h : Escapes escaped) : escaped '%' = true :=
  h '%' rfl

theorem decode (h : Escapes escaped) (q : Octets) :
    Percent.decode (Percent.encodeOctets escaped q) = q :=
  Percent.decode_encodeOctets h.percent q

theorem stays (h : Escapes escaped) (hc : c ∈ Percent.encodeOctets escaped q) : Url.Stays c := by
  rcases Percent.mem_encodeOctets hc with rfl | ⟨n, hn, rfl⟩ | ⟨hascii, hkept⟩
  . exact ⟨by decide, by decide, by decide, by decide⟩
  . have hdigit : ∀ n < 16, (Percent.hexDigit n).toNat < 0x80 ∧
        Percent.path (Percent.hexDigit n) = false ∧ Percent.hexDigit n ≠ '/' ∧
        Percent.hexDigit n ≠ '\\' := by
      decide
    obtain ⟨hascii, hkept, hslash, hbackslash⟩ := hdigit n hn
    exact ⟨hascii, hkept, hslash, hbackslash⟩
  . have hsegment : Percent.segment c = false := by
      cases hsegment : Percent.segment c with
      | false => rfl
      | true =>
        rw [h c hsegment] at hkept
        cases hkept
    unfold Percent.segment at hsegment
    simp only [Bool.or_eq_false_iff, beq_eq_false_iff_ne] at hsegment
    obtain ⟨⟨⟨hpath, hslash⟩, _⟩, hbackslash⟩ := hsegment
    exact ⟨hascii, hpath, hslash, hbackslash⟩

theorem stays_of_mem (h : Escapes escaped) (names : List Octets) :
    ∀ s ∈ names.map (Percent.encodeOctets escaped), ∀ c ∈ s, Url.Stays c := by
  rw [List.forall_mem_map]
  intro name _ c hc
  exact h.stays hc

theorem isDoubleDot_iff (h : Escapes escaped) :
    Url.isDoubleDot (Percent.encodeOctets escaped q) = true ↔ q = FileTree.above := by
  constructor
  . intro hdouble
    rw [← h.decode q]
    exact Url.decode_of_isDoubleDot hdouble
  . rintro rfl
    exact Url.isDoubleDot_encodeOctets escaped

theorem isIdle_of_isDot (h : Escapes escaped)
    (hdot : Url.isDot (Percent.encodeOctets escaped q) = true) : isIdle q = true := by
  rw [← h.decode q, Url.decode_of_isDot hdot]
  rfl

end Escapes

theorem splitOn_of_isAbsolute (h : p.isAbsolute = true) :
    ∃ names, p.octets.splitOn slash = [] :: names ∧ names ≠ [] := by
  rcases p with ⟨octets⟩
  unfold FilePath.isAbsolute at h
  dsimp only at h ⊢
  cases octets with
  | nil => cases h
  | cons b bs =>
    rw [List.head?_cons, beq_iff_eq, Option.some_inj] at h
    rw [h, List.splitOn_cons_eq_if_modifyHead, if_pos (by simp)]
    exact ⟨bs.splitOn slash, rfl, List.splitOn_ne_nil slash bs⟩

theorem decode_driveSegment {letter : Char} (h : letter.isAlpha = true) :
    slash ∉ Percent.decode (Url.driveSegment letter) ∧
      Percent.decode (Url.driveSegment letter) ≠ FileTree.above := by
  have hbounds : 65 ≤ letter.toNat ∧ letter.toNat ≤ 122 := by
    unfold Char.isAlpha Char.isUpper Char.isLower at h
    simp only [Bool.or_eq_true, Bool.and_eq_true, decide_eq_true_eq, ge_iff_le,
      UInt32.le_iff_toNat_le] at h
    change 65 ≤ letter.val.toNat ∧ letter.val.toNat ≤ 122
    rcases h with ⟨hlow, hhigh⟩ | ⟨hlow, hhigh⟩
    . exact ⟨hlow, Nat.le_trans hhigh (by decide)⟩
    . exact ⟨Nat.le_trans (by decide) hlow, hhigh⟩
  have hne : letter ≠ '%' := by
    rintro rfl
    revert hbounds
    decide
  have hdecode : Percent.decode (Url.driveSegment letter) = [letter.toNat.toUInt8, 0x3A] := by
    rw [Url.driveSegment, Percent.decode_cons hne, Percent.utf8EncodeChar_of_lt (by omega)]
    rfl
  have hoctet : letter.toNat.toUInt8 ≠ slash := by
    intro hslash
    have htoNat := congrArg UInt8.toNat hslash
    simp only [Nat.toUInt8, UInt8.toNat_ofNat', slash, UInt8.reduceToNat] at htoNat
    omega
  rw [hdecode, List.mem_cons, List.mem_singleton, not_or]
  exact ⟨⟨Ne.symm hoctet, by decide⟩, by simp [FileTree.above, point]⟩

/-- No segment of the trail stands for a name with a slash in it, or for one that leads upwards. -/
theorem decode_mem_along (h : Escapes escaped) {names : List Octets}
    (hnames : ∀ name ∈ names, slash ∉ name) :
    ∀ k ∈ (Url.Trail.along true (names.map (Percent.encodeOctets escaped))).segments,
      slash ∉ Percent.decode k ∧ Percent.decode k ≠ FileTree.above := by
  refine Url.Trail.forall_mem_along (h.stays_of_mem names) ?_ ?_ ?_
  . rw [List.forall_mem_map]
    intro name hname hdouble
    rw [h.decode]
    refine ⟨hnames name hname, ?_⟩
    intro habove
    rw [h.isDoubleDot_iff.mpr habove] at hdouble
    cases hdouble
  . intro letter halpha
    exact decode_driveSegment halpha
  . exact ⟨nofun, nofun⟩

/-- An editor's address is read as its segments, after dot segments are followed. -/
theorem parse_addressOf (h : Escapes escaped) (hp : p.isAbsolute = true) :
    let segments := (p.octets.splitOn slash).map (Percent.encodeOctets escaped)
    ∃ q, parse (addressOf escaped p) = .ok (ofPath q) ∧ q.isAbsolute = true ∧
      q.names = ((Url.Trail.along true segments).segments.map Percent.decode).filter
        (!isIdle ·) := by
  obtain ⟨names, hsplit, hne⟩ := splitOn_of_isAbsolute hp
  have hslash : ∀ name ∈ [] :: names, slash ∉ name := by
    intro name hname
    rw [← hsplit] at hname
    exact notMem_of_mem_splitOn hname
  have hurl := Url.parse_of_segments (h.stays_of_mem names) (by simpa using hne)
  obtain ⟨parts, hparts, hpartsne, hmem, hsame⟩ :=
    Url.exists_pathOfTrail (.along true (([] :: names).map (Percent.encodeOctets escaped)))
  rw [List.map_cons, Percent.encodeOctets, List.flatMap_nil] at hparts
  rw [hparts] at hurl
  dsimp only
  rw [addressOf, hsplit]
  refine ⟨⟨parts.flatMap fun s => slash :: Percent.decode s⟩, ?_, ?_, ?_⟩
  . unfold parse
    rw [List.map_cons, Percent.encodeOctets, List.flatMap_nil, hurl]
    rfl
  . obtain ⟨first, rest, rfl⟩ := List.exists_cons_of_ne_nil hpartsne
    rfl
  . rw [Url.names_flatMap, hsame]
    intro s hs
    rcases hmem s hs with hs | rfl
    . exact (decode_mem_along h hslash s hs).1
    . nofun

/-- A path that does not lead upwards has the same names as its address. -/
theorem names_along (h : Escapes escaped) {names : List Octets} (habove : FileTree.above ∉ names) :
    ((Url.Trail.along true (([] :: names).map (Percent.encodeOctets escaped))).segments.map
        Percent.decode).filter (!isIdle ·)
      = names.filter (!isIdle ·) := by
  have hdouble : ∀ s ∈ names.map (Percent.encodeOctets escaped), Url.isDoubleDot s = false := by
    rw [List.forall_mem_map]
    intro name hname
    rw [← Bool.not_eq_true, h.isDoubleDot_iff]
    rintro rfl
    exact habove hname
  -- A single dot that is dropped would be left out of the names anyway.
  have hdot : ∀ name ∈ names,
      (!isIdle name && !Url.isDot (Percent.encodeOctets escaped name)) = !isIdle name := by
    intro name _
    cases hdot : Url.isDot (Percent.encodeOctets escaped name) with
    | false => simp
    | true =>
      rw [h.isIdle_of_isDot hdot]
      rfl
  obtain ⟨ending, hsegments, hending⟩ := Url.Trail.segments_along (h.stays_of_mem names) hdouble
  have hidle : (ending.map Percent.decode).filter (!isIdle ·) = [] := by
    rw [List.filter_eq_nil_iff, List.forall_mem_map]
    intro s hs
    rw [hending s hs]
    decide
  have hundo : Percent.decode ∘ Percent.encodeOctets escaped = id := funext h.decode
  have hkept : ((names.map (Percent.encodeOctets escaped)).filter (!Url.isDot ·)).map Percent.decode
      = names.filter fun name => !Url.isDot (Percent.encodeOctets escaped name) := by
    rw [List.filter_map, List.map_map, hundo, List.map_id]
    rfl
  rw [List.map_cons, Percent.encodeOctets, List.flatMap_nil, hsegments, List.map_append,
    List.map_cons, hkept, List.filter_append, hidle, List.append_nil,
    List.filter_cons_of_neg (by decide), List.filter_filter, List.filter_congr hdot]

/-- The address means the document that the path does, if and only if no name leads upwards. -/
theorem parse_addressOf_eq_iff (h : Escapes escaped) (hp : p.isAbsolute = true) :
    ∃ uri, parse (addressOf escaped p) = .ok uri ∧
      (uri = ofPath p ↔ FileTree.above ∉ p.names) := by
  obtain ⟨q, hparse, hq, hnames⟩ := parse_addressOf h hp
  obtain ⟨names, hsplit, _⟩ := splitOn_of_isAbsolute hp
  have hpnames : p.names = names.filter (!isIdle ·) := by
    rw [FilePath.names, hsplit, List.filter_cons_of_neg (by decide)]
  have hsame : ofPath q = ofPath p ↔ q.names = p.names := by
    unfold ofPath
    rw [file.injEq, normalize_eq_iff, hq, hp]
    exact and_iff_right rfl
  refine ⟨ofPath q, hparse, ?_⟩
  rw [hsame]
  constructor
  . intro hqp habove
    rw [← hqp, hnames] at habove
    obtain ⟨k, hk, hdecode⟩ := List.mem_map.mp (List.mem_filter.mp habove).1
    refine (decode_mem_along h ?_ k hk).2 hdecode
    intro name hname
    exact notMem_of_mem_splitOn hname
  . intro habove
    have hnotMem : FileTree.above ∉ names := by
      intro hmem
      apply habove
      rw [hpnames]
      exact List.mem_filter.mpr ⟨hmem, rfl⟩
    rw [hnames, hsplit, names_along h hnotMem, hpnames]

/--
An editor's changes to the file at an absolute path make stale what an index says about that path,
if the editor's address of the file means the same document. That is so if no name of the path leads
upwards.
-/
theorem stale_of_addressOf {σ : Type} (h : Escapes escaped) (path : String)
    (hpath : (FilePath.ofText path).isAbsolute = true) :
    ∃ uri, parse (addressOf escaped (.ofText path)) = .ok uri ∧
      (uri = ofPathText path ↔ FileTree.above ∉ (FilePath.ofText path).names) ∧
      (FileTree.above ∉ (FilePath.ofText path).names →
        ∀ (host : Host σ) (c : Checking σ) (l : Location), l.path = path →
          Checker.HearsOfEdits host uri c → (Checker.isFresh host l c).1 = false) := by
  obtain ⟨uri, hparse, hsame⟩ := parse_addressOf_eq_iff h hpath
  refine ⟨uri, hparse, hsame, ?_⟩
  rintro habove host c l rfl hedits
  rw [hsame.mpr habove] at hedits
  exact Checker.isFresh_of_edited hedits

/-- A machine without files, whose editor holds changes to one document. -/
def editing (uri : DocumentUri) : Host Unit :=
  .ofSnapshot fun _ => FileTree.empty.snapshot [] [uri]

def atStart (path : String) : Location :=
  ⟨path, 1, 1, false, ⟨0⟩⟩

/-- Blanks, percent signs, marks that would end the path, `.` and slashes that are not needed. -/
theorem stale_of_spelledAddress :
    let path := "/src//./50% of #1/é?.swift/"
    Escapes Percent.segment ∧ (FilePath.ofText path).isAbsolute = true ∧
      addressOf Percent.segment (.ofText path)
        = "file:///src//./50%25%20of%20%231/%C3%A9%3F.swift/" ∧
      ∃ uri, parse "file:///src//./50%25%20of%20%231/%C3%A9%3F.swift/" = .ok uri ∧
        uri = ofPathText path ∧
        (Checker.isFresh (editing uri) (atStart path)
          ⟨.ofLevel .inMemoryModifiedFiles, ⟨(), []⟩⟩).1 = false := by
  intro path
  have hescapes : Escapes Percent.segment := fun _ h => h
  have hpath : (FilePath.ofText path).isAbsolute = true := by decide
  have haddress : addressOf Percent.segment (.ofText path)
      = "file:///src//./50%25%20of%20%231/%C3%A9%3F.swift/" := by
    decide +kernel
  have habove : FileTree.above ∉ (FilePath.ofText path).names := by decide
  obtain ⟨uri, hparse, hsame, hstale⟩ := stale_of_addressOf hescapes path hpath
  rw [haddress] at hparse
  refine ⟨hescapes, hpath, haddress, uri, hparse, hsame.mpr habove, ?_⟩
  apply hstale habove (editing uri) _ (atStart path) rfl
  exact ⟨rfl, by simp [editing, Host.ofSnapshot, FileTree.snapshot], by simp [Checker.ofLevel]⟩

/--
The editor's address of `/a/../b` means `/b`, also if it is the file at `/a/../b` that is edited.
Its changes go unseen then.
-/
theorem fresh_of_addressUpwards :
    addressOf Percent.segment (.ofText "/a/../b") = "file:///a/../b" ∧
      parse "file:///a/../b" = .ok (ofPathText "/b") ∧ ofPathText "/b" ≠ ofPathText "/a/../b" ∧
      let tree : FileTree :=
        ⟨⟨0⟩, [([octets "a"], ⟨.directory, ⟨0⟩⟩), ([octets "b"], ⟨.file, ⟨0⟩⟩)]⟩
      let host : Host Unit := .ofSnapshot fun _ => tree.snapshot [] [ofPathText "/b"]
      (host.hasUnsavedEdits (ofPathText "/b") ()).1 = true ∧
        (Checker.isFresh host (atStart "/a/../b")
          ⟨.ofLevel .inMemoryModifiedFiles, ⟨(), []⟩⟩).1 = true := by
  refine ⟨?_, ?_, ?_, ?_, ?_⟩
  . decide +kernel
  . decide +kernel
  . decide
  . decide +kernel
  . decide +kernel

end DocumentUri

end FreshIndex
