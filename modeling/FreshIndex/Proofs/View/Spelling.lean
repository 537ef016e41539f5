import FreshIndex.Proofs.DocumentUri.Spelling
import FreshIndex.Proofs.Store.Answers
import FreshIndex.Proofs.Store.Failures
import FreshIndex.Proofs.View.Units

/-!
This module contains how the symbols that a view shows for a file depend on the spelling of its
path. Whether they are shown at all is decided about the document and does not depend on it. But the
index is asked with the text as it is given, and may know the file under another one.
-/

namespace FreshIndex

open Spelling

variable {σ α : Type} {p q : String}

namespace Spelling

theorem plain_eq_of_ofPathText_eq (h : DocumentUri.ofPathText p = .ofPathText q) :
    plain p = plain q := by
  have hpaths : (FilePath.ofText p).normalize = (FilePath.ofText q).normalize :=
    DocumentUri.file.inj h
  rw [normalize_ofText, normalize_ofText] at hpaths
  exact Text.octets_inj.mp (FilePath.mk.inj hpaths)

/--
Where nothing is found under texts that are not plain, two spellings of a path find the same if both
are plain or neither is, or if there is nothing to find.
-/
theorem finds_same_iff {find : String → α} {nothing : α}
    (hplain : ∀ path, ¬ IsPlain path → find path = nothing)
    (h : DocumentUri.ofPathText p = .ofPathText q) :
    find p = find q ↔ (IsPlain p ↔ IsPlain q) ∨ find (plain p) = nothing := by
  have hsame := plain_eq_of_ofPathText_eq h
  by_cases hp : IsPlain p
  . have hpText := plain_of_isPlain hp
    by_cases hq : IsPlain q
    . rw [← hpText, hsame, plain_of_isPlain hq]
      simp [hq]
    . rw [hplain q hq, hpText]
      simp [hp, hq]
  . by_cases hq : IsPlain q
    . have hqText : plain p = q := hsame.trans (plain_of_isPlain hq)
      rw [hplain p hp, hqText, eq_comm]
      simp [hp, hq]
    . rw [hplain p hp, hplain q hq]
      simp [hp, hq]

end Spelling

/-! ### What an index finds -/

theorem ListedIndex.symbolsIn_eq_nil_iff {lists : ListedIndex} {path : String} :
    lists.symbolsIn path = [] ↔ ∀ o ∈ lists.occurrences, o.location.path ≠ path := by
  unfold symbolsIn
  rw [firstByKey_eq_nil_iff, List.map_eq_nil_iff, List.filter_eq_nil_iff]
  simp

theorem Store.StoredIndex.symbols_eq_nil_iff {i : StoredIndex} {database : σ → Database} {s : σ}
    {c : Contents} (hconnect : i.canConnect = true) (hholds : (database s).Holds c)
    (hsound : c.IsSound) {path : String} :
    ((i.toRawIndex database).symbols path s).1.value = []
      ↔ ∀ o ∈ c.occurrences, o.path ≠ path := by
  obtain ⟨pairs, hpairs, hsymbols⟩ := symbolsAt_eq hholds hsound path
  dsimp only [toRawIndex]
  rw [hsymbols, reply_eq hconnect, List.map_eq_nil_iff, firstsAt, firstByKey_eq_nil_iff,
    List.filter_eq_nil_iff, ← hpairs.records, List.forall_mem_map]
  simp

theorem UnitVerdict.state_eq {m : Snapshot} {level : CheckLevel} {index : RawIndex σ}
    {file : DocumentUri} {mainFile : Option DocumentUri} {answer : Bool} {ds : List Diagnostic}
    {s s' : σ} (h : UnitVerdict m level index file mainFile s answer ds s')
    (hdates : ∀ path s, (index.unitDate path s).2 = s) : s' = s := by
  have hasked {path : String} {reply : Reply (Option Timestamp)}
      (hreply : index.unitDate path s = (reply, s')) : s' = s := by
    have hstate := hdates path s
    rw [hreply] at hstate
    exact hstate
  cases h with
  | uncompared | edited | noFile | missing | unresolved => rfl
  | noUnit _ _ _ hreply => exact hasked hreply
  | gone _ _ _ hreply => exact hasked hreply
  | undecided _ _ _ hreply => exact hasked hreply
  | dated _ _ _ hreply => exact hasked hreply

namespace View

/-- Behind the gate, a view hands on what the index finds under the text that it was given. -/
theorem symbolsIn_eq (g : Gate σ) (path : String) (v : View σ) :
    (symbolsIn g path v).1
      = if (hasFreshUnit g (.ofPathText path) none v).1 = true then
          (g.index.symbols path (hasFreshUnit g (.ofPathText path) none v).2.world.state).1.value
        else [] := by
  unfold symbolsIn
  simp only [bind, StateT.bind]
  rcases hasFreshUnit g (.ofPathText path) none v with ⟨isBuilt, v'⟩
  cases isBuilt with
  | true =>
    simp only [if_true]
    unfold inWorld inChecker Checking.inWorld RawIndex.symbolsIn
    rw [World.askIndex_eq]
  | false => rfl

/-- The gate lets two calls pass or neither, and the index is in the same state behind it. -/
structure GatedAlike (g : Gate σ) (p q : String) (v w : View σ) (answer : Bool) (s : σ) :
    Prop where
  first : (hasFreshUnit g (.ofPathText p) none v).1 = answer
  second : (hasFreshUnit g (.ofPathText q) none w).1 = answer
  firstState : (hasFreshUnit g (.ofPathText p) none v).2.world.state = s
  secondState : (hasFreshUnit g (.ofPathText q) none w).2.world.state = s

theorem GatedAlike.shows_same_iff {g : Gate σ} {v w : View σ} {answer : Bool} {s : σ}
    (h : GatedAlike g p q v w answer s) :
    (symbolsIn g p v).1 = (symbolsIn g q w).1
      ↔ answer = false ∨ (g.index.symbols p s).1.value = (g.index.symbols q s).1.value := by
  rw [symbolsIn_eq, symbolsIn_eq, h.first, h.second, h.firstState, h.secondState]
  cases answer with
  | true => simp
  | false => simp

variable {m : Snapshot} {level : CheckLevel} {index : RawIndex σ} {s s₁ : σ} {v w : View σ}
  {ds es : List Diagnostic} {file : DocumentUri} {answer : Bool}

theorem hasFreshUnit_of_verdict (hv : v.toChecking.Stands m level s ds)
    (hverdict : UnitVerdict m level index file none s answer es s₁) :
    (hasFreshUnit ⟨.ofSnapshot fun _ => m, index⟩ file none v).1 = answer ∧
      (hasFreshUnit ⟨.ofSnapshot fun _ => m, index⟩ file none v).2.world.state = s₁ := by
  obtain ⟨_, _, hverdict', hafter⟩ :=
    Checker.ends_hasFreshUnit m level index file none s ds v.toChecking hv
  obtain ⟨hanswer, _, hstate⟩ := hverdict.unique hverdict'
  rw [hanswer, hstate]
  exact ⟨rfl, hafter.state⟩

/-- An index that does not change when it is asked is in the same state for the next question. -/
theorem stands_symbolsIn (hdates : ∀ path s, (index.unitDate path s).2 = s)
    (hsymbols : ∀ path s, (index.symbols path s).2 = s) (path : String)
    (hv : v.toChecking.Stands m level s ds) :
    ∃ es, (symbolsIn ⟨.ofSnapshot fun _ => m, index⟩ path v).2.toChecking.Stands m level s es := by
  obtain ⟨answer, es, s₁, hverdict, hends⟩ := ends_symbolsIn m level index path s ds v hv
  have hsame : s₁ = s := hverdict.state_eq hdates
  rcases hreply : index.symbols path s₁ with ⟨reply, s₂⟩
  have hsame' : s₂ = s₁ := (congrArg Prod.snd hreply).symm.trans (hsymbols path s₁)
  rw [hreply] at hends
  cases answer with
  | true =>
    rw [hsame', hsame] at hends
    exact ⟨_, hends.2⟩
  | false =>
    rw [hsame] at hends
    exact ⟨_, hends.2⟩

/--
Two spellings of a path show the same symbols if and only if nothing is shown, as the unit is not up
to date, or the index finds the same under both texts. It is so on one view, and on any two that
remember what the machine answers, such as one before and after a question. An index that knows
files by plain texts finds the same if both spellings are plain or neither is, or if nothing occurs
in the file.
-/
theorem symbolsIn_respelled (h : DocumentUri.ofPathText p = .ofPathText q) :
    (∀ (g : Gate σ) (v : View σ),
      let gate := hasFreshUnit g (.ofPathText p) none v
      let s := gate.2.world.state
      (symbolsIn g p v).1 = (symbolsIn g q v).1
        ↔ gate.1 = false ∨ (g.index.symbols p s).1.value = (g.index.symbols q s).1.value) ∧
    (∀ m level (index : RawIndex σ) (v w : View σ) s ds es answer reported s₁,
      v.toChecking.Stands m level s ds → w.toChecking.Stands m level s es →
      UnitVerdict m level index (.ofPathText p) none s answer reported s₁ →
      let g : Gate σ := ⟨.ofSnapshot fun _ => m, index⟩
      (symbolsIn g p v).1 = (symbolsIn g q w).1
        ↔ answer = false ∨ (index.symbols p s₁).1.value = (index.symbols q s₁).1.value) ∧
    (∀ lists : ListedIndex, (∀ o ∈ lists.occurrences, IsPlain o.location.path) →
      (lists.symbolsIn p = lists.symbolsIn q
        ↔ (IsPlain p ↔ IsPlain q) ∨ ∀ o ∈ lists.occurrences, o.location.path ≠ plain p)) ∧
    ∀ (i : Store.StoredIndex) (database : σ → Store.Database) s c, i.canConnect = true →
      (database s).Holds c → c.IsSound → (∀ o ∈ c.occurrences, IsPlain o.path) →
      (((i.toRawIndex database).symbols p s).1.value = ((i.toRawIndex database).symbols q s).1.value
        ↔ (IsPlain p ↔ IsPlain q) ∨ ∀ o ∈ c.occurrences, o.path ≠ plain p) := by
  refine ⟨?_, ?_, ?_, ?_⟩
  . intro g v
    have halike : GatedAlike g p q v v (hasFreshUnit g (.ofPathText p) none v).1
        (hasFreshUnit g (.ofPathText p) none v).2.world.state := by
      refine ⟨rfl, ?_, rfl, ?_⟩
      . rw [h]
      . rw [h]
    exact halike.shows_same_iff
  . -- Both checkers come to one verdict, so that the index is asked in one state.
    intro m level index v w s ds es answer reported s₁ hv hw hverdict
    obtain ⟨hfirst, hfirstState⟩ := hasFreshUnit_of_verdict hv hverdict
    rw [h] at hverdict
    obtain ⟨hsecond, hsecondState⟩ := hasFreshUnit_of_verdict hw hverdict
    exact GatedAlike.shows_same_iff ⟨hfirst, hsecond, hfirstState, hsecondState⟩
  . intro lists hrecorded
    have hplain (path : String) (hpath : ¬ IsPlain path) : lists.symbolsIn path = [] := by
      rw [ListedIndex.symbolsIn_eq_nil_iff]
      rintro o ho rfl
      exact hpath (hrecorded o ho)
    rw [finds_same_iff hplain h, ListedIndex.symbolsIn_eq_nil_iff]
  . intro i database s c hconnect hholds hsound hrecorded
    have hplain (path : String) (hpath : ¬ IsPlain path) :
        ((i.toRawIndex database).symbols path s).1.value = [] := by
      rw [Store.StoredIndex.symbols_eq_nil_iff hconnect hholds hsound]
      rintro o ho rfl
      exact hpath (hrecorded o ho)
    rw [finds_same_iff hplain h, Store.StoredIndex.symbols_eq_nil_iff hconnect hholds hsound]

/-- A file that is known by its plain path. -/
def shelf : ListedIndex where
  occurrences := [⟨⟨"/a", 1, 1, false, ⟨0⟩⟩, Role.definition, ⟨"u", "u", .structType⟩, []⟩]
  units := []
  inclusions := []
  unitTests := []

/-- No unit is up to date, so that no spelling shows anything. But the indexes tell two apart. -/
theorem symbolsIn_respelledUnbuilt :
    let g : Gate Unit := ⟨.ofSnapshot fun _ => workbench, ListedIndex.toRawIndex fun _ => shelf⟩
    let v : View Unit := ofLevel .modifiedFiles ⟨(), []⟩
    let stored : RawIndex Unit :=
      Store.StoredIndex.toRawIndex ⟨.ofText "/index", 5000⟩ fun _ => Store.Contents.sample.database
    DocumentUri.ofPathText "/a" = .ofPathText "/./a" ∧
      (symbolsIn g "/a" v).1 = (symbolsIn g "/./a" v).1 ∧
      (symbolsIn g "/a" v).1 = (symbolsIn g "/./a" (symbolsIn g "/a" v).2).1 ∧
      shelf.symbolsIn "/a" ≠ shelf.symbolsIn "/./a" ∧
      (stored.symbols "/a" ()).1.value ≠ (stored.symbols "/./a" ()).1.value := by
  intro g v stored
  have h : DocumentUri.ofPathText "/a" = .ofPathText "/./a" := by decide
  have htext : plain "/a" = "/a" := by decide
  have hplain : IsPlain "/a" := by
    rw [← htext]
    exact isPlain_plain "/a"
  have hpoint : ¬ IsPlain "/./a" := fun hpoint => hpoint.noPoint (by decide)
  obtain ⟨hview, hviews, hlists, hstored⟩ := @symbolsIn_respelled Unit "/a" "/./a" h
  refine ⟨h, ?_, ?_, ?_, ?_⟩
  . apply (hview g v).mpr
    exact .inl (by decide +kernel)
  . have hv : v.toChecking.Stands workbench .modifiedFiles () [] :=
      Checker.stands_of_accurate rfl (Checker.accurate_ofLevel workbench .modifiedFiles) ⟨(), []⟩
    obtain ⟨_, hw⟩ :
        ∃ es, (symbolsIn g "/a" v).2.toChecking.Stands workbench .modifiedFiles () es :=
      stands_symbolsIn (fun _ _ => rfl) (fun _ _ => rfl) "/a" hv
    have hcompares : workbench.Compares .modifiedFiles (.ofPathText "/a") := ⟨nofun, nofun⟩
    have hreal : workbench.canonicalize (FilePath.ofText "/a").normalize
        = .ok (FilePath.ofText "/a").normalize := rfl
    have hverdict : UnitVerdict workbench .modifiedFiles g.index (.ofPathText "/a") none () false
        [] () :=
      .noUnit hcompares rfl hreal rfl rfl
    exact (hviews _ _ _ v _ _ _ _ _ _ _ hv hw hverdict).mpr (.inl rfl)
  . rw [Ne, hlists shelf (by simpa [shelf] using hplain)]
    simp [hplain, hpoint, htext, shelf]
  . rw [Ne, hstored ⟨.ofText "/index", 5000⟩ _ () .sample (by decide)
      (Store.Contents.holds_database _) Store.Contents.isSound_sample
      (by simpa [Store.Contents.sample] using hplain)]
    simp [hplain, hpoint, htext, Store.Contents.sample]

/-- The symbols of a file are shown under one spelling of its path and not under another. -/
theorem symbolsIn_pointInPath :
    let g : Gate Unit := ⟨.ofSnapshot fun _ => workbench, ListedIndex.toRawIndex fun _ => shelf⟩
    let v : View Unit := ofLevel .deletedFiles ⟨(), []⟩
    DocumentUri.ofPathText "/a" = .ofPathText "/./a" ∧
      (symbolsIn g "/a" v).1 = [⟨"u", "u", .structType⟩] ∧ (symbolsIn g "/./a" v).1 = [] ∧
      (symbolsIn g "/./a" (symbolsIn g "/a" v).2).1 = [] := by
  decide +kernel

end View

end FreshIndex
