import FreshIndex.Proofs.Containers.Known
import FreshIndex.Proofs.Scene.Query

/-!
This module contains how the names of the containers of an occurrence depend on what a view was
asked before. What is kept of a container whose way was cut short is given out later as if it were
all.
-/

namespace FreshIndex

variable {σ τ : Type} {S : Scene} {o : Occurrence} {known : Memo String (List String)}

def Query.asked? : Query τ → Option Occurrence
  | ofOccurrences (.containersOf o) => some o
  | _ => none

def askedIn (queries : List (Query τ)) : List Occurrence :=
  queries.filterMap Query.asked?

namespace Scene

/-- The way from an occurrence if nothing is looked at yet. -/
def trailOf (S : Scene) (o : Occurrence) : Trail :=
  S.trail (View.maxDepth + 1) ⟨.empty, [], []⟩ o

/-- Whatever is refused, there is room to look at all of a way. -/
theorem depth_suffices :
    View.maxDepth < (⟨.empty, [], []⟩ : Memory).size + (View.maxDepth + 1) := by
  unfold Memory.size
  simp only [List.length_nil]
  omega

/-- What is known of containers after those of some occurrences were looked up in turn. -/
def knownAfter (S : Scene) (asked : List Occurrence) : Memo String (List String) :=
  asked.foldl (fun known o => (S.trailOf o).remember known) .empty

theorem namesWithin_trailOf (S : Scene) (known : Memo String (List String)) (o : Occurrence) :
    ((S.namesWithin (View.maxDepth + 1) ⟨known, [], []⟩ o).1,
      (S.namesWithin (View.maxDepth + 1) ⟨known, [], []⟩ o).2.1)
      =
    ((S.trailOf o).namesBy known, ⟨(S.trailOf o).remember known, [], []⟩) := by
  have hfrom : S.trail (View.maxDepth + 1) ⟨known, [], []⟩ o = S.trailOf o :=
    S.trail_containerNames (View.maxDepth + 1) ⟨.empty, [], []⟩ o known
  rw [namesWithin_eq, hfrom]
  rfl

theorem answer_memory (S : Scene) (known : Memo String (List String)) (query : Query τ) :
    (S.answer ⟨known, [], []⟩ query).2.1
      =
    match query.asked? with
    | none => ⟨known, [], []⟩
    | some o => ⟨(S.trailOf o).remember known, [], []⟩ := by
  cases query with
  | ofFiles query => rfl
  | ofOccurrences query =>
    cases query with
    | containersOf o => exact (Prod.mk.inj (S.namesWithin_trailOf known o)).2
    | occurrencesOf | relatedTo | eachOccurrence | eachContaining | eachNamed | unitTests
      | unitTestsFor | definitionsOrDeclarations | primaryDefinition => rfl

theorem memoryAfter_eq (S : Scene) (queries : List (Query τ)) :
    S.memoryAfter ⟨known, [], []⟩ queries
      =
    ⟨(askedIn queries).foldl (fun known o => (S.trailOf o).remember known) known, [], []⟩ := by
  induction queries generalizing known with
  | nil => rfl
  | cons query rest ih =>
    unfold memoryAfter askedIn at ih ⊢
    rw [List.foldl_cons, List.filterMap_cons, answer_memory]
    cases query.asked? with
    | none => exact ih
    | some o => exact ih

theorem isTrue_trailOf {os : List Occurrence} (hos : S.lists.occurrences ⊆ os) (ho : o ∈ os)
    (hopen : (S.trailOf o).IsOpen) :
    (S.trailOf o).IsTrue S (os.flatMap Occurrence.symbols) := by
  exact isTrue_trail hos (View.maxDepth + 1) ho (Nat.zero_le _) depth_suffices hopen

theorem confirms_knownAfter {os asked : List Occurrence} (hos : S.lists.occurrences ⊆ os)
    (hsymbols : AreConsistent (os.flatMap Occurrence.symbols))
    (hknown : S.Confirms (os.flatMap Occurrence.symbols) known)
    (hasked : ∀ p ∈ asked, p ∈ os ∧ (S.trailOf p).IsOpen) :
    S.Confirms (os.flatMap Occurrence.symbols)
      (asked.foldl (fun known o => (S.trailOf o).remember known) known) := by
  induction asked generalizing known with
  | nil => exact hknown
  | cons o rest ih =>
    obtain ⟨ho, hopen⟩ := hasked o List.mem_cons_self
    rw [List.foldl_cons]
    apply ih
    . exact Trail.confirms_remember hsymbols hknown hopen (isTrue_trailOf hos ho hopen)
    . intro p hp
      exact hasked p (List.mem_cons_of_mem o hp)

theorem agreesWith_knownAfter {asked : List Occurrence}
    (hsymbols : AreConsistent ((S.lists.occurrences ++ o :: asked).flatMap Occurrence.symbols))
    (hopen : ∀ p ∈ o :: asked, (S.trailOf p).IsOpen) :
    (S.trailOf o).AgreesWith (S.knownAfter asked) := by
  -- An occurrence that is asked about need not be in the index, so its symbols are added.
  have hos : S.lists.occurrences ⊆ S.lists.occurrences ++ o :: asked :=
    List.subset_append_left _ _
  have hmem : ∀ p ∈ o :: asked, p ∈ S.lists.occurrences ++ o :: asked :=
    fun p hp => List.mem_append_right _ hp
  have hself : o ∈ o :: asked := List.mem_cons_self
  apply Trail.agreesWith_of_isTrue hsymbols _ (hopen o hself)
  . exact isTrue_trailOf hos (hmem o hself) (hopen o hself)
  . apply confirms_knownAfter hos hsymbols
    . intro usr names h
      cases h
    . intro p hp
      have hp := List.mem_cons_of_mem o hp
      exact ⟨hmem p hp, hopen p hp⟩

theorem isOpen_trailOf {chain : List Occurrence} (hchain : S.Chain o chain)
    (hbounded : S.IsBounded chain) : (S.trailOf o).IsOpen := by
  apply isOpen_trail (View.maxDepth + 1) hchain
  constructor
  . simp only [Memory.size, List.length_nil, Nat.zero_add]
    exact hbounded.short
  . intro a _
    cases a <;> simp [Memory.Holds]
  . exact hbounded.nodup

theorem resolves_trailOf (hopen : (S.trailOf o).IsOpen) : S.Resolves o (S.trailOf o).names := by
  exact resolves_trail (View.maxDepth + 1) (Nat.zero_le _) depth_suffices hopen

end Scene

namespace View

/-- Names are given out by the way of an occurrence and by what is known from before. -/
theorem containersOf_eq (S : Scene) (s : σ) (earlier : List (Query τ)) (o : Occurrence) :
    (containersOf S.gate o (after S.gate earlier (ofLevel S.level ⟨s, []⟩))).1
      =
    (S.trailOf o).namesBy (S.knownAfter (askedIn earlier)) := by
  obtain ⟨es, hafter⟩ := within_after (within_ofLevel S s) earlier
  rw [S.memoryAfter_eq] at hafter
  have hanswer := (leads_containersWithin S (maxDepth + 1) o _ hafter).1
  have hnames := (Prod.mk.inj (S.namesWithin_trailOf (S.knownAfter (askedIn earlier)) o)).1
  rw [← hnames]
  exact hanswer

theorem containersOf_ofLevel (S : Scene) (s : σ) (o : Occurrence) :
    (containersOf S.gate o (ofLevel S.level ⟨s, []⟩)).1 = (S.trailOf o).names := by
  rw [← (Trail.namesBy_eq_iff .empty (S.trailOf o)).mpr (Trail.agreesWith_empty _)]
  exact containersOf_eq S s ([] : List (Query Unit)) o

end View

/-! Scenes in which every file exists and each symbol is a struct that goes by its `usr`. -/

def Scene.ofOccurrences (os : List Occurrence) : Scene where
  level := .deletedFiles
  snapshot :=
    { stat := fun _ => .error ⟨.notFound, ""⟩
      readLink := fun _ => .error ⟨.notFound, ""⟩
      canonicalize := fun _ => .error ⟨.notFound, ""⟩
      pathExists := fun _ => true
      hasUnsavedEdits := fun _ => false }
  lists := ⟨os, [], [], []⟩

/-- The definition of a struct that is related to one other struct at most. -/
def Occurrence.ofStruct (usr : String) (related : Option (String × Role)) : Occurrence where
  location := ⟨"/f", 1, 1, false, ⟨0⟩⟩
  roles := Role.definition
  symbol := ⟨usr, usr, .structType⟩
  relations := related.toList.map fun (usr, role) => ⟨⟨usr, usr, .structType⟩, role⟩

namespace Scene

def nested : Scene :=
  .ofOccurrences [.ofStruct "Bar" none, .ofStruct "Foo" (some ("Bar", .childOf)),
    .ofStruct "test" (some ("Foo", .childOf))]

def circle : Scene :=
  .ofOccurrences [.ofStruct "A" (some ("B", .childOf)), .ofStruct "B" (some ("A", .childOf))]

def accessorInAccessor : Scene :=
  .ofOccurrences [.ofStruct "A" (some ("w", .accessorOf)), .ofStruct "v" (some ("A", .childOf)),
    .ofStruct "w" (some ("Z", .childOf)), .ofStruct "Z" none]

end Scene

def View.namesAfter (S : Scene) (asked : List Occurrence) (o : Occurrence) : List String :=
  let earlier : List (Query Unit) := asked.map fun p => .ofOccurrences (.containersOf p)
  (containersOf S.gate o (after S.gate earlier (ofLevel S.level ⟨(), []⟩))).1

namespace View

/--
An occurrence whose chain is bounded has names. They are what is answered if and only if the first
container on its way that is known is known by its own names, which is so if all earlier look-ups
were of occurrences whose chains are bounded, too.
-/
theorem containersOf_of_isBounded (S : Scene) (s : σ) (earlier : List (Query τ)) (o : Occurrence)
    (chain : List Occurrence) (hchain : S.Chain o chain) (hbounded : S.IsBounded chain) :
    let answer := (containersOf S.gate o (after S.gate earlier (ofLevel S.level ⟨s, []⟩))).1
    ∃ names, S.Resolves o names ∧ (∀ names', S.Resolves o names' → names' = names) ∧
      (answer = names ↔ (S.trailOf o).AgreesWith (S.knownAfter (askedIn earlier))) ∧
      (AreConsistent
          ((S.lists.occurrences ++ o :: askedIn earlier).flatMap Occurrence.symbols) →
        (∀ p ∈ askedIn earlier, ∃ chain, S.Chain p chain ∧ S.IsBounded chain) →
          answer = names) := by
  have hopen := Scene.isOpen_trailOf hchain hbounded
  have hresolves := Scene.resolves_trailOf hopen
  dsimp only
  rw [containersOf_eq]
  have hiff := Trail.namesBy_eq_iff (S.knownAfter (askedIn earlier)) (S.trailOf o)
  refine ⟨_, hresolves, fun names' h => hresolves.unique h, hiff, ?_⟩
  intro hsymbols hearlier
  apply hiff.mpr
  apply Scene.agreesWith_knownAfter hsymbols
  intro p hp
  cases hp with
  | head => exact hopen
  | tail _ hp =>
    obtain ⟨chain', hchain', hbounded'⟩ := hearlier p hp
    exact Scene.isOpen_trailOf hchain' hbounded'

theorem containersOf_nested :
    let test : Occurrence := .ofStruct "test" (some ("Foo", .childOf))
    let foo : Occurrence := .ofStruct "Foo" (some ("Bar", .childOf))
    let bar : Occurrence := .ofStruct "Bar" none
    Scene.nested.Chain test [test, foo, bar] ∧ Scene.nested.IsBounded [test, foo, bar] ∧
      Scene.nested.Resolves test (namesAfter .nested [foo] test) := by
  intro test foo bar
  have hbar : Scene.nested.Chain bar [bar] := .last (by decide +kernel)
  have hfoo : Scene.nested.Chain foo [foo, bar] := .cons (by decide +kernel) hbar
  have htest : Scene.nested.Chain test [test, foo, bar] := .cons (by decide +kernel) hfoo
  have hbounded : Scene.nested.IsBounded [test, foo, bar] :=
    ⟨by decide +kernel, by decide +kernel⟩
  refine ⟨htest, hbounded, ?_⟩
  obtain ⟨names, hnames, _, _, hanswer⟩ := containersOf_of_isBounded Scene.nested ()
    ([.ofOccurrences (.containersOf foo)] : List (Query Unit)) test _ htest hbounded
  have hearlier : ∀ p ∈ [foo],
      ∃ chain, Scene.nested.Chain p chain ∧ Scene.nested.IsBounded chain := by
    intro p hp
    rw [List.mem_singleton.mp hp]
    exact ⟨_, hfoo, by decide +kernel, by decide +kernel⟩
  have hsame := hanswer (by decide +kernel) hearlier
  rw [← hsame] at hnames
  exact hnames

theorem containersOf_accessorInAccessor :
    let a : Occurrence := .ofStruct "A" (some ("w", .accessorOf))
    let v : Occurrence := .ofStruct "v" (some ("A", .childOf))
    let w : Occurrence := .ofStruct "w" (some ("Z", .childOf))
    let z : Occurrence := .ofStruct "Z" none
    let asked : Occurrence := .ofStruct "A" (some ("v", .accessorOf))
    AreConsistent ((Scene.accessorInAccessor.lists.occurrences ++ [v, asked]).flatMap
        Occurrence.symbols) ∧
      Scene.accessorInAccessor.Chain v [v, a, w, z] ∧
      Scene.accessorInAccessor.IsBounded [v, a, w, z] ∧
      Scene.accessorInAccessor.Resolves v ["Z", "A"] ∧
      namesAfter .accessorInAccessor [asked] v = ["A"] := by
  intro a v w z asked
  have hz : Scene.accessorInAccessor.Chain z [z] := .last (by decide +kernel)
  have hw : Scene.accessorInAccessor.Chain w [w, z] := .cons (by decide +kernel) hz
  have ha : Scene.accessorInAccessor.Chain a [a, w, z] := .cons (by decide +kernel) hw
  have hv : Scene.accessorInAccessor.Chain v [v, a, w, z] := .cons (by decide +kernel) ha
  have hbounded : Scene.accessorInAccessor.IsBounded [v, a, w, z] :=
    ⟨by decide +kernel, by decide +kernel⟩
  have hnames : (Scene.accessorInAccessor.trailOf v).names = ["Z", "A"] := by decide +kernel
  have hresolves := Scene.resolves_trailOf (Scene.isOpen_trailOf hv hbounded)
  rw [hnames] at hresolves
  exact ⟨by decide +kernel, hv, hbounded, hresolves, by decide +kernel⟩

/--
What is answered for an occurrence is what a new view answers if and only if the first container on
the way of the occurrence that is known is known by the names that this way gives it. This is so if
nothing is refused on the way of this occurrence and of those that were looked up earlier.
-/
theorem containersOf_after (S : Scene) (s : σ) (earlier : List (Query τ)) (o : Occurrence) :
    let answer := (containersOf S.gate o (after S.gate earlier (ofLevel S.level ⟨s, []⟩))).1
    let anew := (containersOf S.gate o (ofLevel S.level ⟨s, []⟩)).1
    (answer = anew ↔ (S.trailOf o).AgreesWith (S.knownAfter (askedIn earlier))) ∧
      (AreConsistent
          ((S.lists.occurrences ++ o :: askedIn earlier).flatMap Occurrence.symbols) →
        (∀ p ∈ o :: askedIn earlier, (S.trailOf p).IsOpen) → answer = anew) := by
  dsimp only
  rw [containersOf_eq, containersOf_ofLevel]
  have hiff := Trail.namesBy_eq_iff (S.knownAfter (askedIn earlier)) (S.trailOf o)
  refine ⟨hiff, ?_⟩
  intro hsymbols hopen
  exact hiff.mpr (Scene.agreesWith_knownAfter hsymbols hopen)

theorem containersOf_circle :
    let x : Occurrence := .ofStruct "x" (some ("A", .childOf))
    let y : Occurrence := .ofStruct "y" (some ("B", .childOf))
    AreConsistent ((Scene.circle.lists.occurrences ++ [y, x]).flatMap Occurrence.symbols) ∧
      namesAfter .circle [x] y = ["A", "B"] ∧ namesAfter .circle [] y = ["B", "A", "B"] := by
  decide +kernel

end View

end FreshIndex
