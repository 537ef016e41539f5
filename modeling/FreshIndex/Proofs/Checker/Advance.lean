import FreshIndex.Proofs.Checker.Lookup

/-!
This module contains how a checker comes by what it remembers: by what it observes, each answer
once.
-/

namespace FreshIndex

variable {σ : Type}

theorem Memo.toList_get?_insert {κ ν : Type} [DecidableEq κ] {m : Memo κ ν} {k : κ}
    (hnew : m.get? k = none) (v : ν) (l : κ) :
    ((m.insert k v).get? l).toList = (m.get? l).toList ++ if l = k then [v] else [] := by
  rw [Memo.get?_insert]
  split
  . rename_i heq
    rw [heq, hnew]
    rfl
  . rw [List.append_nil]

namespace Observation

def found? (subject : DocumentUri) (os : List Observation) (uri : DocumentUri) :
    Option ModificationTime :=
  if subject = uri then (lookup? uri os).bind Except.toOption else none

variable {os os' : List Observation} {uri subject : DocumentUri}

theorem lookup?_append_of_still (hstill : os.filter isOfLookup = []) :
    lookup? uri (os ++ os') = lookup? uri os' := by
  unfold lookup?
  rw [List.filter_append, hstill, List.nil_append]

theorem lookup?_of_still (hstill : os.filter isOfLookup = []) : lookup? uri os = none := by
  unfold lookup?
  rw [hstill]
  cases uri.filePath? with
  | none => rfl
  | some path => simp [latest?]

theorem found?_append_of_still (hstill : os.filter isOfLookup = []) :
    found? subject (os ++ os') uri = found? subject os' uri := by
  unfold found?
  rw [lookup?_append_of_still hstill]

theorem found?_of_still (hstill : os.filter isOfLookup = []) : found? subject os uri = none := by
  unfold found?
  rw [lookup?_of_still hstill]
  split
  . rfl
  . rfl

end Observation

open Observation

namespace Checker

/--
A checker that is asked about `subject` comes from `c` to `c'` by what it observes. Modification
times are told apart by the files they are of, so that only those of files are spoken of.
-/
structure Advances (subject : DocumentUri) (c c' : Checker) (os : List Observation) : Prop where
  level : c'.level = c.level
  existence : ∀ path, (c'.existence.get? (.file path)).toList
    = (c.existence.get? (.file path)).toList ++ os.filterMap (existence? (.file path))
  edits : ∀ uri, (c'.unsavedEdits.get? uri).toList
    = (c.unsavedEdits.get? uri).toList ++ os.filterMap (edits? uri)
  times : ∀ path, (c'.modificationTimes.get? (.file path)).toList
    = (c.modificationTimes.get? (.file path)).toList ++ (found? subject os (.file path)).toList
  quiet : ∀ path m, subject = .file path → c.modificationTimes.get? (.file path) = some m →
    os.filter isOfLookup = []
  single : os.filter isOfLookup = [] ∨ (lookup? subject os).isSome

namespace Advances

variable {subject uri : DocumentUri} {c c' c'' : Checker} {os os' : List Observation}

theorem of_still (hlevel : c'.level = c.level)
    (htimes : c'.modificationTimes = c.modificationTimes)
    (hexistence : ∀ path, (c'.existence.get? (.file path)).toList
      = (c.existence.get? (.file path)).toList ++ os.filterMap (existence? (.file path)))
    (hedits : ∀ uri, (c'.unsavedEdits.get? uri).toList
      = (c.unsavedEdits.get? uri).toList ++ os.filterMap (edits? uri))
    (hstill : os.filter isOfLookup = []) : Advances subject c c' os where
  level := hlevel
  existence := hexistence
  edits := hedits
  times path := by rw [htimes, found?_of_still hstill, Option.toList_none, List.append_nil]
  quiet _ _ _ _ := hstill
  single := .inl hstill

theorem of_canonicalize (path : FilePath) (answer : Except IoError FilePath) :
    Advances subject c c [.canonicalize path answer] := by
  refine of_still rfl rfl ?_ ?_ rfl
  . exact fun _ => (List.append_nil _).symm
  . exact fun _ => (List.append_nil _).symm

theorem of_lookup (hlevel : c'.level = c.level) (hexistence : c'.existence = c.existence)
    (hedits : c'.unsavedEdits = c.unsavedEdits) (hos : ∀ o ∈ os, o.isOfLookup = true)
    (hnew : ∀ path, subject = .file path → c.modificationTimes.get? (.file path) = none)
    (htimes : ∀ path, (c'.modificationTimes.get? (.file path)).toList
      = (c.modificationTimes.get? (.file path)).toList ++ (found? subject os (.file path)).toList)
    (hsingle : os = [] ∨ (lookup? subject os).isSome) : Advances subject c c' os where
  level := hlevel
  existence path := by
    have hnone : os.filterMap (existence? (.file path)) = [] := by
      apply List.filterMap_eq_nil_iff.mpr
      intro o ho
      have := hos o ho
      cases o <;> first | rfl | cases this
    rw [hexistence, hnone, List.append_nil]
  edits uri := by
    have hnone : os.filterMap (edits? uri) = [] := by
      apply List.filterMap_eq_nil_iff.mpr
      intro o ho
      have := hos o ho
      cases o <;> first | rfl | cases this
    rw [hedits, hnone, List.append_nil]
  times := htimes
  quiet path m hsubject hknown := by
    rw [hnew path hsubject] at hknown
    cases hknown
  single := by
    rw [List.filter_eq_self.mpr hos]
    exact hsingle

theorem refl : Advances subject c c [] := by
  refine of_still rfl rfl ?_ ?_ rfl
  . exact fun _ => (List.append_nil _).symm
  . exact fun _ => (List.append_nil _).symm

theorem trans (h : Advances subject c c' os) (hstill : os.filter isOfLookup = [])
    (h' : Advances subject c' c'' os') : Advances subject c c'' (os ++ os') where
  level := h'.level.trans h.level
  existence path := by
    rw [h'.existence, h.existence, List.filterMap_append, List.append_assoc]
  edits uri := by
    rw [h'.edits, h.edits, List.filterMap_append, List.append_assoc]
  times path := by
    rw [h'.times, h.times, found?_append_of_still hstill, found?_of_still hstill]
    simp only [Option.toList_none, List.append_nil]
  quiet path m hsubject hknown := by
    -- What was known of the time at first is still known when the second thing is done.
    have htimes := h.times path
    rw [found?_of_still hstill, hknown, Option.toList_none, List.append_nil] at htimes
    have hknown' : c'.modificationTimes.get? (.file path) = some m := by
      simpa using congrArg List.head? htimes
    rw [List.filter_append, hstill, h'.quiet path m hsubject hknown']
    rfl
  single := by
    rw [List.filter_append, hstill, lookup?_append_of_still hstill]
    exact h'.single

theorem insert_existence {answer : Bool} (hnew : c.existence.get? uri = none)
    (hos : os = uri.filePath?.toList.map fun path => .pathExists path answer) :
    Advances subject c { c with existence := c.existence.insert uri answer } os := by
  subst hos
  cases uri with
  | file asked =>
    refine of_still rfl rfl ?_ ?_ rfl
    . intro path
      rw [Memo.toList_get?_insert hnew]
      by_cases h : DocumentUri.file path = .file asked
      . simp [DocumentUri.filePath?, existence?, h]
      . simp only [DocumentUri.filePath?, Option.toList_some, List.map_cons, List.map_nil,
          List.filterMap_cons, List.filterMap_nil, existence?, h, if_false]
    . exact fun _ => (List.append_nil _).symm
  | other address =>
    refine of_still rfl rfl ?_ ?_ rfl
    . intro path
      -- That a document that is no file does not exist is kept without a question.
      rw [Memo.toList_get?_insert hnew]
      rfl
    . exact fun _ => (List.append_nil _).symm

theorem insert_edits {answer : Bool} (hnew : c.unsavedEdits.get? uri = none) :
    Advances subject c { c with unsavedEdits := c.unsavedEdits.insert uri answer }
      [.unsavedEdits uri answer] := by
  refine of_still rfl rfl ?_ ?_ rfl
  . exact fun _ => (List.append_nil _).symm
  . intro uri'
    rw [Memo.toList_get?_insert hnew]
    by_cases h : uri' = uri <;> simp [edits?, h]

theorem of_failure {e : IoError} (hnew : c.modificationTimes.get? uri = none)
    (hos : ∀ o ∈ os, o.isOfLookup = true) (hfound : lookup? uri os = some (.error e)) :
    Advances uri c c os := by
  refine of_lookup rfl rfl rfl hos ?_ ?_ ?_
  . rintro path rfl
    exact hnew
  . intro path
    unfold found?
    split
    . rename_i h
      rw [← h, hfound]
      exact (List.append_nil _).symm
    . exact (List.append_nil _).symm
  . right
    rw [hfound]
    rfl

theorem insert_time {time : ModificationTime} (hnew : c.modificationTimes.get? uri = none)
    (hos : ∀ o ∈ os, o.isOfLookup = true) (hfound : lookup? uri os = some (.ok time)) :
    Advances uri c { c with modificationTimes := c.modificationTimes.insert uri time } os := by
  refine of_lookup rfl rfl rfl hos ?_ ?_ ?_
  . rintro path rfl
    exact hnew
  . intro path
    rw [Memo.toList_get?_insert hnew]
    unfold found?
    by_cases h : DocumentUri.file path = uri
    . rw [if_pos h, if_pos h.symm, h, hfound]
      rfl
    . rw [if_neg h, if_neg (Ne.symm h)]
      rfl
  . right
    rw [hfound]
    rfl

theorem insert_gone (hpath : uri.filePath? = none) (time : ModificationTime) :
    Advances uri c { c with modificationTimes := c.modificationTimes.insert uri time } [] := by
  refine of_lookup rfl rfl rfl ?_ ?_ ?_ ?_
  . intro o ho
    cases ho
  . rintro path rfl
    cases hpath
  . intro path
    cases uri with
    | file _ => cases hpath
    | other address =>
      simp only [Memo.get?_insert, reduceCtorEq, if_false]
      exact (List.append_nil _).symm
  . exact .inl rfl

end Advances

end Checker

end FreshIndex
