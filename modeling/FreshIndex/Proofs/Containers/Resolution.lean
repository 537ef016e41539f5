import FreshIndex.Proofs.Containers.Trail

/-!
This module contains what the names of the containers of an occurrence are, apart from how they are
looked up, and the proof that a way on which nothing is refused yields them.
-/

namespace FreshIndex

variable {S : Scene} {μ : Memory} {o next : Occurrence} {c : Symbol} {names : List String}
  {chain : List Occurrence} {usr : String}

namespace Scene

/-- The names of the containers of an occurrence, outermost first. -/
inductive Resolves (S : Scene) : Occurrence → List String → Prop
  | accessor {o next : Occurrence} {names : List String}
    (hvariable : S.variableDefinition o = some next) (hnext : Resolves S next names) :
    Resolves S o names
  | outermost {o : Occurrence} (hvariable : S.variableDefinition o = none)
    (hcontainer : o.container? = none) : Resolves S o []
  | undefined {o : Occurrence} {c : Symbol} (hvariable : S.variableDefinition o = none)
    (hcontainer : o.container? = some c) (hdefinition : S.containerDefinition c = none) :
    Resolves S o [(S.namedContainer c).name]
  | inside {o next : Occurrence} {c : Symbol} {names : List String}
    (hvariable : S.variableDefinition o = none) (hcontainer : o.container? = some c)
    (hdefinition : S.containerDefinition c = some next) (hnext : Resolves S next names) :
    Resolves S o (names ++ [(S.namedContainer c).name])

/-- The names of a container and all its containers, outermost first. -/
def ResolvesContainer (S : Scene) (c : Symbol) (names : List String) : Prop :=
  match S.containerDefinition c with
  | none => names = [(S.namedContainer c).name]
  | some next => ∃ outer, S.Resolves next outer ∧ names = outer ++ [(S.namedContainer c).name]

/-- The occurrence that one comes to from an occurrence. -/
def next? (S : Scene) (o : Occurrence) : Option Occurrence :=
  match S.variableDefinition o with
  | some next => some next
  | none => o.container?.bind S.containerDefinition

/-- The occurrences that one comes to in turn, to the last. -/
inductive Chain (S : Scene) : Occurrence → List Occurrence → Prop
  | last {o : Occurrence} (hlast : S.next? o = none) : Chain S o [o]
  | cons {o next : Occurrence} {chain : List Occurrence} (hnext : S.next? o = some next)
    (hchain : Chain S next chain) : Chain S o (o :: chain)

end Scene

/-- What an occurrence is taken for. -/
inductive Attempt
  | accessor (usr : String)
  | container (usr : String)
  deriving Repr, DecidableEq

namespace Scene

def attempts (S : Scene) (o : Occurrence) : List Attempt :=
  (if o.accessed?.isSome then [.accessor o.symbol.usr] else []) ++
    if (S.variableDefinition o).isSome then []
    else o.container?.toList.map fun c => .container c.usr

def isAttempting (S : Scene) (o : Occurrence) : Bool :=
  !(S.attempts o).isEmpty

/-- The chain is so short and so free of repetition that nothing in it is refused. -/
structure IsBounded (S : Scene) (chain : List Occurrence) : Prop where
  short : chain.countP S.isAttempting ≤ View.maxDepth
  nodup : (chain.flatMap S.attempts).Nodup

end Scene

namespace Memory

def size (μ : Memory) : Nat :=
  μ.resolvingAccessors.length + μ.resolvingContainers.length

def Holds (μ : Memory) : Attempt → Prop
  | .accessor usr => usr ∈ μ.resolvingAccessors
  | .container usr => usr ∈ μ.resolvingContainers

def admits (μ : Memory) : Attempt → Bool
  | .accessor usr => μ.admitsAccessor usr
  | .container usr => μ.admitsContainer usr

def enter (μ : Memory) : Attempt → Memory
  | .accessor usr => μ.enterAccessor usr
  | .container usr => μ.enterContainer usr

theorem admits_iff (μ : Memory) (a : Attempt) :
    μ.admits a = true ↔ μ.size < View.maxDepth ∧ ¬ μ.Holds a := by
  cases a with
  | accessor usr => simp [admits, admitsAccessor, hasRoom, size, Holds]
  | container usr => simp [admits, admitsContainer, hasRoom, size, Holds]

theorem size_enter (μ : Memory) (a : Attempt) : (μ.enter a).size = μ.size + 1 := by
  cases a with
  | accessor usr =>
    simp only [enter, enterAccessor, size, List.length_cons]
    omega
  | container usr =>
    simp only [enter, enterContainer, size, List.length_cons]
    omega

theorem holds_enter (μ : Memory) (a b : Attempt) : (μ.enter a).Holds b ↔ b = a ∨ μ.Holds b := by
  cases a with
  | accessor usr => cases b <;> simp [enter, enterAccessor, Holds]
  | container usr => cases b <;> simp [enter, enterContainer, Holds]

end Memory

/-- What `μ` holds leaves room for a chain. -/
structure Memory.Admits (μ : Memory) (S : Scene) (chain : List Occurrence) : Prop where
  short : μ.size + chain.countP S.isAttempting ≤ View.maxDepth
  isNew : ∀ a ∈ chain.flatMap S.attempts, ¬ μ.Holds a
  nodup : (chain.flatMap S.attempts).Nodup

namespace Memory.Admits

open Scene

variable {a : Attempt}

theorem admits_attempt (h : μ.Admits S (o :: chain)) (ha : a ∈ S.attempts o) :
    μ.admits a = true := by
  have hattempts : S.isAttempting o = true := by
    simp [isAttempting, List.ne_nil_of_mem ha]
  have hshort := h.short
  rw [List.countP_cons_of_pos hattempts] at hshort
  rw [admits_iff]
  constructor
  . omega
  . apply h.isNew
    simp only [List.flatMap_cons, List.mem_append]
    exact .inl ha

theorem enter (h : μ.Admits S (o :: chain)) (ha : a ∈ S.attempts o) :
    (μ.enter a).Admits S chain := by
  have hattempts : S.isAttempting o = true := by
    simp [isAttempting, List.ne_nil_of_mem ha]
  have hshort := h.short
  have hnodup := h.nodup
  rw [List.flatMap_cons, List.nodup_append] at hnodup
  obtain ⟨_, hchain, hdisjoint⟩ := hnodup
  constructor
  . rw [List.countP_cons_of_pos hattempts] at hshort
    rw [size_enter]
    omega
  . intro b hb
    rw [holds_enter]
    rintro (rfl | hheld)
    . exact hdisjoint b ha b hb rfl
    . apply h.isNew b _ hheld
      simp only [List.flatMap_cons, List.mem_append]
      exact .inr hb
  . exact hchain

end Memory.Admits

namespace Scene

theorem Chain.eq_cons (h : S.Chain o chain) : ∃ rest, chain = o :: rest := by
  cases h with
  | last _ => exact ⟨[], rfl⟩
  | cons _ _ => exact ⟨_, rfl⟩

theorem Chain.tail (h : S.Chain o chain) (hnext : S.next? o = some next) :
    ∃ rest, chain = o :: rest ∧ S.Chain next rest := by
  cases h with
  | last hlast =>
    rw [hlast] at hnext
    cases hnext
  | cons hnext' hchain =>
    rw [hnext'] at hnext
    cases hnext
    exact ⟨_, rfl, hchain⟩

theorem next?_of_variable (hvariable : S.variableDefinition o = some next) :
    S.next? o = some next := by
  unfold next?
  rw [hvariable]

theorem next?_of_container (hvariable : S.variableDefinition o = none)
    (hcontainer : o.container? = some c) : S.next? o = S.containerDefinition c := by
  unfold next?
  rw [hvariable, hcontainer]
  rfl

theorem mem_attempts_of_variable (hvariable : S.variableDefinition o = some next) :
    .accessor o.symbol.usr ∈ S.attempts o := by
  obtain ⟨v, hv, _⟩ := Option.bind_eq_some_iff.mp hvariable
  simp [attempts, hv]

theorem mem_attempts_of_container (hvariable : S.variableDefinition o = none)
    (hcontainer : o.container? = some c) : .container c.usr ∈ S.attempts o := by
  simp [attempts, hvariable, hcontainer]

theorem isOpen_trail (depth : Nat) (hchain : S.Chain o chain) (hroom : μ.Admits S chain) :
    (S.trail depth μ o).IsOpen := by
  -- The room that `μ` leaves gets smaller with the chain: an attempt is entered and is used up.
  induction depth generalizing μ o chain with
  | zero => trivial
  | succ depth ih =>
    unfold trail
    cases hvariable : S.variableDefinition o with
    | some next =>
      obtain ⟨rest, rfl, hrest⟩ := hchain.tail (next?_of_variable hvariable)
      have hattempt := mem_attempts_of_variable hvariable
      have hadmits : μ.admitsAccessor o.symbol.usr = true := hroom.admits_attempt hattempt
      simp only [hadmits, if_true]
      exact ih hrest (hroom.enter hattempt)
    | none =>
      unfold trailOutwards trailBeyond
      cases hcontainer : o.container? with
      | none => trivial
      | some c =>
        obtain ⟨rest, rfl⟩ := hchain.eq_cons
        have hattempt := mem_attempts_of_container hvariable hcontainer
        have hadmits : μ.admitsContainer c.usr = true := hroom.admits_attempt hattempt
        simp only [hadmits, if_true]
        cases hdefinition : S.containerDefinition c with
        | none => trivial
        | some next =>
          have hnext : S.next? o = some next := by
            rw [next?_of_container hvariable hcontainer, hdefinition]
          obtain ⟨rest', heq, hrest⟩ := hchain.tail hnext
          cases heq
          exact ih hrest (hroom.enter hattempt)

theorem lt_of_admits {a : Attempt} (h : μ.admits a = true) : μ.size < View.maxDepth :=
  ((μ.admits_iff a).mp h).1

theorem resolves_of_container (hvariable : S.variableDefinition o = none)
    (hcontainer : o.container? = some c) (h : S.ResolvesContainer c names) :
    S.Resolves o names := by
  unfold ResolvesContainer at h
  cases hdefinition : S.containerDefinition c with
  | none =>
    simp only [hdefinition] at h
    rw [h]
    exact .undefined hvariable hcontainer hdefinition
  | some next =>
    simp only [hdefinition] at h
    obtain ⟨outer, houter, rfl⟩ := h
    exact .inside hvariable hcontainer hdefinition houter

theorem Resolves.unique {names' : List String} (h : S.Resolves o names)
    (h' : S.Resolves o names') : names' = names := by
  induction h generalizing names' with
  | accessor hvariable _ ih => cases h' <;> simp_all
  | outermost hvariable hcontainer => cases h' <;> simp_all
  | undefined hvariable hcontainer hdefinition => cases h' <;> simp_all
  | inside hvariable hcontainer hdefinition _ ih => cases h' <;> simp_all

theorem ResolvesContainer.unique {names' : List String} (h : S.ResolvesContainer c names)
    (h' : S.ResolvesContainer c names') : names' = names := by
  unfold ResolvesContainer at h h'
  cases hdefinition : S.containerDefinition c with
  | none =>
    simp only [hdefinition] at h h'
    rw [h, h']
  | some next =>
    simp only [hdefinition] at h h'
    obtain ⟨outer, houter, rfl⟩ := h
    obtain ⟨outer', houter', rfl⟩ := h'
    rw [houter.unique houter']

theorem trail_succ_of_isOpen {depth : Nat} (hopen : (S.trail (depth + 1) μ o).IsOpen) :
    (∃ next, S.variableDefinition o = some next ∧ μ.size < View.maxDepth ∧
      S.trail (depth + 1) μ o = .accessor (S.trail depth (μ.enter (.accessor o.symbol.usr)) next)) ∨
    (S.variableDefinition o = none ∧ o.container? = none ∧
      S.trail (depth + 1) μ o = .outermost) ∨
    ∃ c, S.variableDefinition o = none ∧ o.container? = some c ∧ μ.size < View.maxDepth ∧
      S.trail (depth + 1) μ o
        = .container c.usr (S.namedContainer c).name (S.trailBeyond (S.trail depth) μ c) := by
  rw [trail] at hopen ⊢
  cases hvariable : S.variableDefinition o with
  | some next =>
    left
    simp only [hvariable] at hopen ⊢
    cases hadmits : μ.admitsAccessor o.symbol.usr with
    | false =>
      simp only [hadmits, Bool.false_eq_true, if_false] at hopen
      cases hopen
    | true =>
      simp only [if_true]
      exact ⟨next, rfl, lt_of_admits (a := .accessor o.symbol.usr) hadmits, rfl⟩
  | none =>
    right
    simp only [hvariable] at hopen ⊢
    unfold trailOutwards at hopen ⊢
    cases hcontainer : o.container? with
    | none => exact .inl ⟨trivial, rfl, rfl⟩
    | some c =>
      right
      simp only [hcontainer] at hopen ⊢
      cases hadmits : μ.admitsContainer c.usr with
      | false =>
        simp only [hadmits, Bool.false_eq_true, if_false] at hopen
        cases hopen
      | true =>
        simp only [if_true]
        exact ⟨c, trivial, rfl, lt_of_admits (a := .container c.usr) hadmits, rfl⟩

theorem resolvesContainer_trailBeyond {depth : Nat}
    (hnext : ∀ next, (S.trail depth (μ.enter (.container c.usr)) next).IsOpen →
      S.Resolves next (S.trail depth (μ.enter (.container c.usr)) next).names)
    (hopen : (S.trailBeyond (S.trail depth) μ c).IsOpen) :
    S.ResolvesContainer c
      ((S.trailBeyond (S.trail depth) μ c).names ++ [(S.namedContainer c).name]) := by
  unfold trailBeyond at hopen ⊢
  unfold ResolvesContainer
  cases hdefinition : S.containerDefinition c with
  | none => rfl
  | some next =>
    simp only [hdefinition] at hopen ⊢
    exact ⟨_, hnext next hopen, rfl⟩

theorem resolves_trail (depth : Nat) (hsize : μ.size ≤ View.maxDepth)
    (hdepth : View.maxDepth < μ.size + depth) (hopen : (S.trail depth μ o).IsOpen) :
    S.Resolves o (S.trail depth μ o).names := by
  -- A way goes on only if its attempt is entered, so `depth` cannot be used up before it ends.
  induction depth generalizing μ o with
  | zero => omega
  | succ depth ih =>
    have ih_enter (a : Attempt) (next : Occurrence) (hlt : μ.size < View.maxDepth)
        (hopen : (S.trail depth (μ.enter a) next).IsOpen) :
        S.Resolves next (S.trail depth (μ.enter a) next).names := by
      have hsize_enter := μ.size_enter a
      exact ih (by omega) (by omega) hopen
    obtain ⟨next, hvariable, hlt, htrail⟩ | ⟨hvariable, hcontainer, htrail⟩ |
      ⟨c, hvariable, hcontainer, hlt, htrail⟩ := trail_succ_of_isOpen hopen
    . rw [htrail] at hopen ⊢
      exact .accessor hvariable (ih_enter _ next hlt hopen)
    . rw [htrail]
      exact .outermost hvariable hcontainer
    . rw [htrail] at hopen ⊢
      apply resolves_of_container hvariable hcontainer
      exact resolvesContainer_trailBeyond (fun next => ih_enter _ next hlt) hopen

end Scene

end FreshIndex
