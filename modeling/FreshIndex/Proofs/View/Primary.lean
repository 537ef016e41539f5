import FreshIndex.Proofs.Symbol.Order
import FreshIndex.Proofs.View.Enumeration
import FreshIndex.Proofs.View.Units

/-!
This module contains the proof that the primary definition of a symbol is the least of those that
are up to date. Neither the order in which the index has the occurrences nor what the checker was
asked before has an influence on it.
-/

namespace FreshIndex

variable {σ : Type} {m : Snapshot} {level : CheckLevel} {index : RawIndex σ}
  {os os' : List Occurrence} {usr : String} {ds : List Diagnostic} {μ : Memory}

/-- The index finds the occurrences of a symbol in a list, in one order or another. -/
def RawIndex.Lists (index : RawIndex σ) (os : List Occurrence) : Prop :=
  ∀ usr roles s, ∃ found s', found.Perm (os.filter (ListedIndex.isOf usr roles)) ∧
    index.occurrences usr roles s = (⟨found, []⟩, s')

theorem ListedIndex.lists_toRawIndex (lists : ListedIndex) :
    (toRawIndex fun _ : σ => lists).Lists lists.occurrences :=
  fun _ _ s => ⟨_, s, .refl _, rfl⟩

/-- Whether a checker that was asked nothing before finds an occurrence up to date. -/
def Snapshot.findsFresh (m : Snapshot) (level : CheckLevel) (o : Occurrence) : Bool :=
  (Checker.isFresh (.ofSnapshot fun _ => m) o.location ⟨.ofLevel level, ⟨(), []⟩⟩).1

theorem Snapshot.findsFresh_eq (m : Snapshot) (level : CheckLevel) :
    m.findsFresh level = fun o => (m.judge level o.location).1 := by
  funext o
  exact (Checker.isFresh_ofLevel m level _ o.location).1

/-- The definitions of a symbol that pass, or its declarations that do if no definition does. -/
def definitionsAmong (isFresh : Occurrence → Bool) (os : List Occurrence) (usr : String) :
    List Occurrence :=
  let fresh (roles : Roles) := os.filter fun o => ListedIndex.isOf usr roles o && isFresh o
  if (fresh Role.definition).isEmpty then fresh Role.declaration else fresh Role.definition

theorem definitionsAmong_perm (h : os.Perm os') (isFresh : Occurrence → Bool) (usr : String) :
    (definitionsAmong isFresh os usr).Perm (definitionsAmong isFresh os' usr) := by
  unfold definitionsAmong
  dsimp only
  rw [(h.filter _).isEmpty_eq]
  split
  . exact h.filter _
  . exact h.filter _

theorem Scene.definitionsOrDeclarations_eq (S : Scene) (usr : String) :
    S.definitionsOrDeclarations usr = definitionsAmong S.isFresh S.lists.occurrences usr := by
  have hfresh (roles : Roles) : S.occurrencesOf usr roles
      = S.lists.occurrences.filter fun o => ListedIndex.isOf usr roles o && S.isFresh o := by
    unfold occurrencesOf fresh listedOf
    rw [List.filter_filter]
    apply List.filter_congr
    intro o _
    rw [Bool.and_comm]
  unfold definitionsOrDeclarations definitionsAmong
  simp only [hfresh]

theorem Snapshot.severity_of_mem_judge {l : Location} {d : Diagnostic}
    (h : d ∈ (m.judge level l).2) : d.severity = .fault := by
  unfold judge at h
  dsimp only at h
  split at h
  . cases h
  . split at h
    . cases h
    . split at h
      . cases h
      . cases h
      . rw [List.mem_singleton.mp h]
        rfl

namespace View

section Index

variable {S : Scene} (h : index.Lists S.lists.occurrences) (usr : String)
include h

theorem ends_occurrencesOf (roles : Roles) :
    Ends (Within S μ ds) (occurrencesOf ⟨S.host, index⟩ usr roles) fun found v =>
      found.Perm (S.occurrencesOf usr roles) ∧ v.Within S μ (ds ++ S.faultsIn found) := by
  intro v hv
  obtain ⟨listed, s', hperm, hreply⟩ := h usr roles v.world.state
  -- What the index has listed is looked at in the order in which it has listed it.
  let asked : View σ :=
    { v with world := ⟨s', .call (.occurrences usr roles) :: v.world.trace⟩ }
  have hrun : occurrencesOf ⟨S.host, index⟩ usr roles v = retainFresh S.gate listed asked := by
    have hfound : index.occurrencesOf usr roles v.world
        = (listed, ⟨s', .call (.occurrences usr roles) :: v.world.trace⟩) := by
      rw [RawIndex.occurrencesOf_eq, hreply]
      rfl
    change retainFresh _ (index.occurrencesOf usr roles v.world).1
      { v with world := (index.occurrencesOf usr roles v.world).2 } = _
    rw [hfound]
    have hhost : (⟨S.host, index⟩ : Gate σ).host = S.gate.host := rfl
    exact congrFun (retainFresh_congr hhost listed) asked
  have hasked : asked.Within S μ ds := by
    refine ⟨⟨hv.checking.level, hv.checking.accurate, ?_⟩, hv.memory⟩
    change World.diagnostics ⟨s', .call (.occurrences usr roles) :: v.world.trace⟩ = ds
    rw [World.diagnostics_cons, ← hv.checking.told]
    exact List.append_nil _
  obtain ⟨hkept, hafter⟩ := leads_retainFresh S listed asked hasked
  rw [hrun, hkept]
  refine ⟨hperm.filter _, ?_⟩
  rw [S.faultsIn_fresh]
  exact hafter

theorem ends_definitionsOrDeclarations :
    Ends (Within S μ ds) (definitionsOrDeclarations ⟨S.host, index⟩ usr) fun found v =>
      found.Perm (S.definitionsOrDeclarations usr) ∧ v.Within S μ (ds ++ S.faultsIn found) := by
  unfold definitionsOrDeclarations Scene.definitionsOrDeclarations
  refine Ends.bind (ends_occurrencesOf h usr _) ?_
  rintro definitions v ⟨hperm, hv⟩
  dsimp only
  rw [← hperm.isEmpty_eq]
  cases definitions with
  | nil =>
    rw [Scene.faultsIn, List.flatMap_nil, List.append_nil] at hv
    exact ends_occurrencesOf h usr _ v hv
  | cons o rest => exact ⟨hperm, hv⟩

theorem ends_primaryDefinition :
    Ends (Within S μ ds) (primaryDefinition ⟨S.host, index⟩ usr) fun primary v =>
      primary = S.primaryDefinition usr ∧ ∃ found : List Occurrence,
        v.Within S μ (ds ++ S.faultsIn found
          ++ if primary = none then [.noDefinition usr] else []) := by
  unfold primaryDefinition
  refine Ends.bind (ends_definitionsOrDeclarations h usr) ?_
  rintro found v ⟨hperm, hv⟩
  dsimp only
  rw [least?_of_perm hperm, ← Scene.primaryDefinition]
  cases S.primaryDefinition usr with
  | none =>
    obtain ⟨_, hafter⟩ := leads_report (.noDefinition usr) v hv
    exact ⟨rfl, found, hafter⟩
  | some o =>
    refine ⟨rfl, found, ?_⟩
    change v.Within S μ (_ ++ if some o = none then _ else _)
    rw [if_neg (Option.some_ne_none o), List.append_nil]
    exact hv

end Index

/--
The view gives the definitions or declarations of a symbol in some order, and the least of them as
the primary one. It reports an error if and only if there are none.
-/
structure ChoosesPrimary (g : Gate σ) (usr : String) (definitions : List Occurrence)
    (v : View σ) : Prop where
  definitionsOrDeclarations : (definitionsOrDeclarations g usr v).1.Perm definitions
  least : ∀ o, (primaryDefinition g usr v).1 = some o ↔
    o ∈ definitions ∧ ∀ p ∈ definitions, (compare o p).isLE
  missing : (primaryDefinition g usr v).1 = none ↔ definitions = []
  reported : ∃ faults : List Diagnostic, (∀ d ∈ faults, d.severity = .fault) ∧
    (primaryDefinition g usr v).2.world.diagnostics
      = v.world.diagnostics ++ faults ++ if definitions = [] then [.noDefinition usr] else []

theorem choosesPrimary_of_lists (h : index.Lists os) {v : View σ}
    (hv : Checker.Arises (σ := σ) (.ofSnapshot fun _ => m) level v.checker) :
    ChoosesPrimary ⟨.ofSnapshot fun _ => m, index⟩ usr
      (definitionsAmong (m.findsFresh level) os usr) v := by
  let S : Scene := ⟨level, m, ⟨os, [], [], []⟩⟩
  have hwithin : v.Within S v.memory v.world.diagnostics :=
    ⟨⟨hv.accurate.1, hv.accurate.2, rfl⟩, rfl⟩
  have hlists : index.Lists S.lists.occurrences := h
  have hsame : S.definitionsOrDeclarations usr
      = definitionsAmong (m.findsFresh level) os usr := by
    rw [Snapshot.findsFresh_eq]
    exact S.definitionsOrDeclarations_eq usr
  obtain ⟨hperm, _⟩ := ends_definitionsOrDeclarations hlists usr v hwithin
  obtain ⟨hprimary, found, hafter⟩ := ends_primaryDefinition hlists usr v hwithin
  change _ = least? (S.definitionsOrDeclarations usr) at hprimary
  rw [hsame] at hperm hprimary
  have hnone : (primaryDefinition ⟨S.host, index⟩ usr v).1 = none
      ↔ definitionsAmong (m.findsFresh level) os usr = [] := by
    rw [hprimary]
    exact least?_eq_none_iff
  refine ⟨hperm, ?_, hnone, S.faultsIn found, ?_, ?_⟩
  . intro o
    change (primaryDefinition ⟨S.host, index⟩ usr v).1 = some o ↔ _
    rw [hprimary]
    exact least?_eq_some_iff
  . intro d hd
    obtain ⟨o, _, hd⟩ := List.mem_flatMap.mp hd
    exact Snapshot.severity_of_mem_judge hd
  . have htold := hafter.checking.told
    unfold World.Told at htold
    simp only [hnone] at htold
    exact htold

/--
Two indexes have the same occurrences, each in an order of its own, and nothing changes while they
are asked. Then both give the same definitions or declarations of a symbol, and one of them as the
primary one.
-/
theorem primaryDefinition_of_perm {σ' : Type} (m : Snapshot) (level : CheckLevel) (usr : String)
    {index : RawIndex σ} {index' : RawIndex σ'} {os os' : List Occurrence}
    (hlists : index.Lists os) (hlists' : index'.Lists os') (hperm : os.Perm os')
    {v : View σ} {v' : View σ'}
    (hv : Checker.Arises (σ := σ) (.ofSnapshot fun _ => m) level v.checker)
    (hv' : Checker.Arises (σ := σ') (.ofSnapshot fun _ => m) level v'.checker) :
    let g : Gate σ := ⟨.ofSnapshot fun _ => m, index⟩
    let g' : Gate σ' := ⟨.ofSnapshot fun _ => m, index'⟩
    let isFresh := m.findsFresh level
    ChoosesPrimary g usr (definitionsAmong isFresh os usr) v ∧
      ChoosesPrimary g' usr (definitionsAmong isFresh os' usr) v' ∧
      (definitionsOrDeclarations g usr v).1.Perm (definitionsOrDeclarations g' usr v').1 ∧
      (primaryDefinition g usr v).1 = (primaryDefinition g' usr v').1 := by
  intro g g' isFresh
  have hchooses : ChoosesPrimary g usr (definitionsAmong isFresh os usr) v :=
    choosesPrimary_of_lists hlists hv
  have hchooses' : ChoosesPrimary g' usr (definitionsAmong isFresh os' usr) v' :=
    choosesPrimary_of_lists hlists' hv'
  have hdefinitions := definitionsAmong_perm hperm isFresh usr
  refine ⟨hchooses, hchooses', ?_, ?_⟩
  . exact hchooses.definitionsOrDeclarations.trans
      (hdefinitions.trans hchooses'.definitionsOrDeclarations.symm)
  . apply Option.ext
    intro o
    rw [hchooses.least, hchooses'.least]
    simp only [hdefinitions.mem_iff]

def scatteredAt (path : String) (role : Role) (seen : Int) : Occurrence where
  location := ⟨path, 1, 1, false, ⟨seen⟩⟩
  roles := role
  symbol := ⟨"f", "f", .function⟩
  relations := []

/-- A symbol with two definitions that are up to date, and others that come before them. -/
def scattered : List Occurrence :=
  [scatteredAt "/e" .definition 6, scatteredAt "/b" .declaration 6, scatteredAt "/a" .definition 4,
    scatteredAt "/d" .definition 6, scatteredAt "/c" .definition 6]

theorem primaryDefinition_scattered :
    let choose (os : List Occurrence) (v : View Unit) :=
      (primaryDefinition ⟨.ofSnapshot fun _ => workbench,
        ListedIndex.toRawIndex fun _ => ⟨os, [], [], []⟩⟩ "f" v).1
    choose scattered (ofLevel .inMemoryModifiedFiles ⟨(), []⟩)
        = some (scatteredAt "/d" .definition 6) ∧
      choose scattered.reverse seasoned = some (scatteredAt "/d" .definition 6) := by
  intro choose
  have hnew : Checker.Arises (.ofSnapshot fun _ => workbench : Host Unit) .inMemoryModifiedFiles
      (ofLevel (σ := Unit) .inMemoryModifiedFiles ⟨(), []⟩).checker :=
    .new
  obtain ⟨hchooses, _, _, hsame⟩ := primaryDefinition_of_perm workbench .inMemoryModifiedFiles "f"
    (ListedIndex.lists_toRawIndex (σ := Unit) ⟨scattered, [], [], []⟩)
    (ListedIndex.lists_toRawIndex (σ := Unit) ⟨scattered.reverse, [], [], []⟩)
    scattered.reverse_perm.symm hnew arises_seasoned
  have hleast : choose scattered (ofLevel .inMemoryModifiedFiles ⟨(), []⟩)
      = some (scatteredAt "/d" .definition 6) :=
    (hchooses.least _).mpr ⟨by decide +kernel, by decide +kernel⟩
  exact ⟨hleast, hsame.symm.trans hleast⟩

end View

end FreshIndex
