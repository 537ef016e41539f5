import FreshIndex.Proofs.Checker.OneSnapshot
import FreshIndex.Proofs.Scene.Units

/-!
This module contains the proof that the table for units decides about whole files in a view, too:
which main files it lists and whether it shows the symbols of a file. What the checker was asked
before does not matter.
-/

namespace FreshIndex

variable {σ α : Type} {m : Snapshot} {level : CheckLevel} {index : RawIndex σ}
  {files kept kept' : List DocumentUri} {ds es : List Diagnostic} {s s₁ s₂ : σ}

namespace Checker

/--
What a checker may be after it was asked questions. Between them, anything may happen to the index,
and the index may be another each time.
-/
inductive Arises (host : Host σ) (level : CheckLevel) : Checker → Prop
  | new : Arises host level (.ofLevel level)
  | asked {c : Checker} (h : Arises host level c) (query : CheckerQuery σ) (w : World σ) :
    Arises host level (query.run host ⟨c, w⟩).2.checker

theorem stands_of_accurate {c : Checker} (hlevel : c.level = level) (haccurate : Accurate m c)
    (w : World σ) : Checking.Stands m level w.state w.diagnostics ⟨c, w⟩ where
  within := ⟨hlevel, haccurate, rfl⟩
  state := rfl

theorem Arises.accurate {c : Checker} (h : Arises (σ := σ) (.ofSnapshot fun _ => m) level c) :
    c.level = level ∧ Accurate m c := by
  induction h with
  | new => exact ⟨rfl, accurate_ofLevel m level⟩
  | @asked c _ query w ih =>
    have hstands := stands_of_accurate ih.1 ih.2 w
    have hafter : ∃ ds, Checking.Within ⟨level, m, .empty⟩ ds
        (query.run (.ofSnapshot fun _ => m) ⟨c, w⟩).2 := by
      cases query with
      | isFresh l =>
        exact ⟨_, (leads_isFresh ⟨level, m, .empty⟩ l _ hstands.within).2⟩
      | modificationTime uri =>
        exact ⟨_, (leads_modificationTime ⟨level, m, .empty⟩ uri _ hstands.within).2⟩
      | fileExists uri =>
        exact ⟨_, (leads_fileExists ⟨level, m, .empty⟩ uri _ hstands.within).2⟩
      | hasFreshUnit index file mainFile =>
        obtain ⟨es, s', _, hafter⟩ := ends_hasFreshUnit m level index file mainFile _ _ _ hstands
        exact ⟨_, hafter.within⟩
      | fileHasUnsavedEdits uri =>
        exact ⟨_, (leads_fileHasUnsavedEdits ⟨level, m, .empty⟩ uri _ hstands.within).2⟩
    obtain ⟨_, hwithin⟩ := hafter
    exact ⟨hwithin.level, hwithin.accurate⟩

end Checker

/--
Some files are gone over in turn, and those with a unit that is up to date are kept. The index is in
the state `s` before that.
-/
inductive KeepsBuilt (m : Snapshot) (level : CheckLevel) (index : RawIndex σ) :
    (s : σ) → (files kept : List DocumentUri) → List Diagnostic → (s' : σ) → Prop
  | nil {s : σ} : KeepsBuilt m level index s [] [] [] s
  | built {file : DocumentUri} {rest kept : List DocumentUri} {ds es : List Diagnostic}
    {s s₁ s₂ : σ} (hverdict : UnitVerdict m level index file none s true ds s₁)
    (hrest : KeepsBuilt m level index s₁ rest kept es s₂) :
    KeepsBuilt m level index s (file :: rest) (file :: kept) (ds ++ es) s₂
  | unbuilt {file : DocumentUri} {rest kept : List DocumentUri} {ds es : List Diagnostic}
    {s s₁ s₂ : σ} (hverdict : UnitVerdict m level index file none s false ds s₁)
    (hrest : KeepsBuilt m level index s₁ rest kept es s₂) :
    KeepsBuilt m level index s (file :: rest) kept (ds ++ es) s₂

namespace KeepsBuilt

theorem unique (h : KeepsBuilt m level index s files kept ds s₁)
    (h' : KeepsBuilt m level index s files kept' es s₂) : kept = kept' ∧ ds = es ∧ s₁ = s₂ := by
  induction h generalizing kept' es s₂ with
  | nil =>
    cases h'
    exact ⟨rfl, rfl, rfl⟩
  | built hverdict _ ih =>
    cases h' with
    | built hverdict' hrest' =>
      obtain ⟨_, rfl, rfl⟩ := hverdict.unique hverdict'
      obtain ⟨rfl, rfl, rfl⟩ := ih hrest'
      exact ⟨rfl, rfl, rfl⟩
    | unbuilt hverdict' =>
      obtain ⟨hanswer, _⟩ := hverdict.unique hverdict'
      cases hanswer
  | unbuilt hverdict _ ih =>
    cases h' with
    | built hverdict' =>
      obtain ⟨hanswer, _⟩ := hverdict.unique hverdict'
      cases hanswer
    | unbuilt hverdict' hrest' =>
      obtain ⟨_, rfl, rfl⟩ := hverdict.unique hverdict'
      obtain ⟨rfl, rfl, rfl⟩ := ih hrest'
      exact ⟨rfl, rfl, rfl⟩

/-- If the index does not change when it is asked, the files are kept that the table is for. -/
theorem filter {isBuilt : DocumentUri → Bool} (h : ∀ file ∈ files, ∃ ds,
      UnitVerdict m level index file none s (isBuilt file) ds s) :
    ∃ ds, KeepsBuilt m level index s files (files.filter isBuilt) ds s := by
  induction files with
  | nil => exact ⟨[], .nil⟩
  | cons file rest ih =>
    obtain ⟨ds, hverdict⟩ := h file List.mem_cons_self
    obtain ⟨es, hrest⟩ := ih fun other hother => h other (List.mem_cons_of_mem file hother)
    cases hbuilt : isBuilt file with
    | true =>
      rw [hbuilt] at hverdict
      rw [List.filter_cons_of_pos hbuilt]
      exact ⟨ds ++ es, .built hverdict hrest⟩
    | false =>
      rw [hbuilt] at hverdict
      rw [List.filter_cons_of_neg (by simp [hbuilt])]
      exact ⟨ds ++ es, .unbuilt hverdict hrest⟩

end KeepsBuilt

/-- From `w` to `w'`, `ds` is reported, and the index comes into the state `s`. -/
structure World.Leaves (w : World σ) (ds : List Diagnostic) (s : σ) (w' : World σ) : Prop where
  reported : w'.diagnostics = w.diagnostics ++ ds
  state : w'.state = s

theorem Checking.Stands.leaves {w : World σ} {c : Checking σ}
    (h : c.Stands m level s (w.diagnostics ++ ds)) : w.Leaves ds s c.world where
  reported := h.within.told
  state := h.state

/-- What holds of one outcome only and of that of a run says what the outcome of the run is. -/
theorem World.Leaves.iff_of_unique {P : α → List Diagnostic → σ → Prop} {a b : α} {w w' : World σ}
    (hunique : ∀ {a b ds es s₁ s₂}, P a ds s₁ → P b es s₂ → a = b ∧ ds = es ∧ s₁ = s₂)
    (hrun : P a es s₁) (before : List Diagnostic) (hleaves : w.Leaves (before ++ es) s₁ w') :
    P b ds s ↔ a = b ∧ w.Leaves (before ++ ds) s w' := by
  constructor
  . intro h
    obtain ⟨rfl, rfl, rfl⟩ := hunique hrun h
    exact ⟨rfl, hleaves⟩
  . rintro ⟨rfl, hreported, rfl⟩
    rw [hleaves.reported, List.append_cancel_left_eq, List.append_cancel_left_eq] at hreported
    rw [← hreported, hleaves.state]
    exact hrun

namespace View

theorem ends_inChecker {P : Checking σ → Prop} {Q : α → Checking σ → Prop}
    {act : StateM (Checking σ) α} (h : Ends P act Q) :
    Ends (fun v => P v.toChecking) (inChecker act) fun a v => Q a v.toChecking := by
  intro v hv
  exact h v.toChecking hv

theorem ends_retainBuilt (m : Snapshot) (level : CheckLevel) (index : RawIndex σ)
    (files : List DocumentUri) (s : σ) (ds : List Diagnostic) :
    Ends (fun v => v.toChecking.Stands m level s ds)
      (retainBuilt ⟨.ofSnapshot fun _ => m, index⟩ files) fun kept v =>
        ∃ es s', KeepsBuilt m level index s files kept es s' ∧
          v.toChecking.Stands m level s' (ds ++ es) := by
  induction files generalizing s ds with
  | nil =>
    apply Ends.pure
    intro v hv
    refine ⟨[], s, .nil, ?_⟩
    rw [List.append_nil]
    exact hv
  | cons file rest ih =>
    unfold retainBuilt
    refine Ends.bind (ends_inChecker (Checker.ends_hasFreshUnit m level index file none s ds)) ?_
    intro isBuilt v hv
    obtain ⟨es, s₁, hverdict, hstands⟩ := hv
    obtain ⟨es', s₂, hkeeps, hstands'⟩ := ih s₁ (ds ++ es) v hstands
    rw [List.append_assoc] at hstands'
    cases isBuilt with
    | true => exact ⟨es ++ es', s₂, .built hverdict hkeeps, hstands'⟩
    | false => exact ⟨es ++ es', s₂, .unbuilt hverdict hkeeps, hstands'⟩

theorem leads_inWorld_stands {act : StateM (World σ) α} {a : α}
    (h : Leads (World.Stands s ds) act a (World.Stands s₁ es)) :
    Leads (fun v => v.toChecking.Stands m level s ds) (inWorld act) a
      fun v => v.toChecking.Stands m level s₁ es := by
  intro v hv
  exact Checking.leads_inWorld_stands h v.toChecking hv

theorem ends_mainFilesOf (m : Snapshot) (level : CheckLevel) {uri : DocumentUri}
    {crossLanguage : Bool} {reply : Reply (List String)}
    (hreply : index.mainFiles uri.pseudoPath crossLanguage s = (reply, s₁))
    (ds : List Diagnostic) :
    Ends (fun v => v.toChecking.Stands m level s ds)
      (mainFilesOf ⟨.ofSnapshot fun _ => m, index⟩ uri crossLanguage) fun kept v =>
        ∃ es s', KeepsBuilt m level index s₁ (reply.value.map .ofPathText) kept es s' ∧
          v.toChecking.Stands m level s' (ds ++ (reply.reported ++ es)) := by
  unfold mainFilesOf
  refine Ends.bind_of_leads (leads_inWorld_stands (World.leads_askIndex_of_eq hreply)) ?_
  simp only [← List.append_assoc]
  exact ends_retainBuilt m level index _ s₁ _

theorem ends_symbolsIn (m : Snapshot) (level : CheckLevel) (index : RawIndex σ) (path : String)
    (s : σ) (ds : List Diagnostic) :
    Ends (fun v => v.toChecking.Stands m level s ds)
      (symbolsIn ⟨.ofSnapshot fun _ => m, index⟩ path) fun symbols v =>
        ∃ answer es s₁, UnitVerdict m level index (.ofPathText path) none s answer es s₁ ∧
          let (reply, s₂) := index.symbols path s₁
          if answer = true then
            symbols = reply.value ∧
              v.toChecking.Stands m level s₂ (ds ++ (es ++ reply.reported))
          else symbols = [] ∧ v.toChecking.Stands m level s₁ (ds ++ es) := by
  unfold symbolsIn
  refine Ends.bind
    (ends_inChecker (Checker.ends_hasFreshUnit m level index (.ofPathText path) none s ds)) ?_
  intro isBuilt v hv
  obtain ⟨es, s₁, hverdict, hstands⟩ := hv
  refine ⟨isBuilt, es, s₁, hverdict, ?_⟩
  rcases hreply : index.symbols path s₁ with ⟨reply, s₂⟩
  cases isBuilt with
  | true =>
    obtain ⟨hsymbols, hafter⟩ :=
      leads_inWorld_stands (World.leads_askIndex_of_eq hreply) v hstands
    rw [List.append_assoc] at hafter
    exact ⟨hsymbols, hafter⟩
  | false => exact ⟨rfl, hstands⟩

/--
The table decides about units whatever a checker was asked before: by itself, for the main files
that a view lists, which are those of the index with a unit that is up to date, in the order of the
index, and for the symbols of a file, which are all those of the index or none. An unknown real path
is a warning, an unknown date of the file is a fault.
-/
theorem units_decided (m : Snapshot) (level : CheckLevel) (index : RawIndex σ) (v : View σ)
    (h : Checker.Arises (.ofSnapshot fun _ => m : Host σ) level v.checker) :
    let g : Gate σ := ⟨.ofSnapshot fun _ => m, index⟩
    (∀ file mainFile,
      let run := Checker.hasFreshUnit g.host index file mainFile v.toChecking
      hasFreshUnit g file mainFile v = (run.1, { v with toChecking := run.2 }) ∧
      ∀ answer ds s, UnitVerdict m level index file mainFile v.world.state answer ds s ↔
        run.1 = answer ∧ v.world.Leaves ds s run.2.world) ∧
    (∀ uri crossLanguage reply s₁,
      index.mainFiles uri.pseudoPath crossLanguage v.world.state = (reply, s₁) →
      let candidates := reply.value.map .ofPathText
      let run := mainFilesOf g uri crossLanguage v
      (∀ kept ds s, KeepsBuilt m level index s₁ candidates kept ds s ↔
        run.1 = kept ∧ v.world.Leaves (reply.reported ++ ds) s run.2.world) ∧
      ∀ isBuilt, (∀ file ∈ candidates, ∃ ds,
        UnitVerdict m level index file none s₁ (isBuilt file) ds s₁) →
          run.1 = candidates.filter isBuilt) ∧
    (∀ path answer ds s₁ reply s₂,
      UnitVerdict m level index (.ofPathText path) none v.world.state answer ds s₁ →
      index.symbols path s₁ = (reply, s₂) →
        let run := symbolsIn g path v
        if answer = true then
          run.1 = reply.value ∧ v.world.Leaves (ds ++ reply.reported) s₂ run.2.world
        else run.1 = [] ∧ v.world.Leaves ds s₁ run.2.world) ∧
    (∀ path cause, (Diagnostic.realPathUnknown path cause).severity = .warning) ∧
    ∀ file cause, (Diagnostic.unitUndecided file cause).severity = .fault := by
  intro g
  have hstands : v.toChecking.Stands m level v.world.state v.world.diagnostics :=
    Checker.stands_of_accurate h.accurate.1 h.accurate.2 v.world
  refine ⟨?_, ?_, ?_, fun _ _ => rfl, fun _ _ => rfl⟩
  . intro file mainFile run
    refine ⟨rfl, ?_⟩
    obtain ⟨es, s', hverdict, hafter⟩ :=
      Checker.ends_hasFreshUnit m level index file mainFile _ _ _ hstands
    intro answer ds s
    exact World.Leaves.iff_of_unique UnitVerdict.unique hverdict [] hafter.leaves
  . intro uri crossLanguage reply s₁ hreply candidates run
    obtain ⟨es, s', hkeeps, hafter⟩ := ends_mainFilesOf m level hreply _ v hstands
    have hiff {kept ds s} : KeepsBuilt m level index s₁ candidates kept ds s ↔
        run.1 = kept ∧ v.world.Leaves (reply.reported ++ ds) s run.2.world :=
      World.Leaves.iff_of_unique KeepsBuilt.unique hkeeps reply.reported hafter.leaves
    refine ⟨fun kept ds s => hiff, ?_⟩
    intro isBuilt hverdicts
    obtain ⟨ds, hfilter⟩ := KeepsBuilt.filter hverdicts
    exact (hiff.mp hfilter).1
  . intro path answer ds s₁ reply s₂ hverdict hreply run
    obtain ⟨answer', es, s', hverdict', hends⟩ := ends_symbolsIn m level index path _ _ v hstands
    obtain ⟨rfl, rfl, rfl⟩ := hverdict.unique hverdict'
    rw [hreply] at hends
    cases answer with
    | true => exact ⟨hends.1, hends.2.leaves⟩
    | false => exact ⟨hends.1, hends.2.leaves⟩

/-- All files have one date, and the editor holds changes to one of them. -/
def workbench : Snapshot where
  stat _ := .ok ⟨⟨5⟩, false⟩
  readLink _ := .error ⟨.named "InvalidInput", "not a link"⟩
  canonicalize p := .ok p
  pathExists _ := true
  hasUnsavedEdits uri := decide (uri = .ofPathText "/c")

/-- Three main files include a header. One was built before it changed last. -/
def builds : ListedIndex where
  occurrences := []
  units := [("/a", ⟨7⟩), ("/b", ⟨3⟩), ("/c", ⟨9⟩)]
  inclusions := [⟨"/h", "/c", false⟩, ⟨"/h", "/b", false⟩, ⟨"/h", "/a", false⟩]
  unitTests := []

/-- A checker that was asked about one of the files and about a unit of another before. -/
def seasoned : View Unit :=
  let host : Host Unit := .ofSnapshot fun _ => workbench
  let start : Checker := .ofLevel .inMemoryModifiedFiles
  let dated := ((CheckerQuery.modificationTime (.ofPathText "/b")).run host ⟨start, ⟨(), []⟩⟩).2
  let index : RawIndex Unit := ListedIndex.toRawIndex fun _ => .empty
  let asked := ((CheckerQuery.hasFreshUnit index (.ofPathText "/c") none).run host dated).2
  { ofLevel .inMemoryModifiedFiles asked.world with checker := asked.checker }

theorem arises_seasoned :
    Checker.Arises (.ofSnapshot fun _ => workbench : Host Unit) .inMemoryModifiedFiles
      seasoned.checker :=
  .asked (.asked .new (.modificationTime (.ofPathText "/b")) ⟨(), []⟩)
    (.hasFreshUnit (ListedIndex.toRawIndex fun _ => .empty) (.ofPathText "/c") none) _

/-- Of the three main files that the index has for a header, one is listed. -/
theorem mainFilesOf_seasoned :
    Checker.Arises (.ofSnapshot fun _ => workbench : Host Unit) .inMemoryModifiedFiles
        seasoned.checker ∧
      (mainFilesOf ⟨.ofSnapshot fun _ => workbench, ListedIndex.toRawIndex fun _ => builds⟩
        (.ofPathText "/h") false seasoned).1 = [.ofPathText "/a"] := by
  refine ⟨arises_seasoned, ?_⟩
  obtain ⟨_, hmainFiles, _⟩ := units_decided workbench .inMemoryModifiedFiles
    (ListedIndex.toRawIndex fun _ => builds) seasoned arises_seasoned
  have hfound : builds.mainFilesOf (DocumentUri.ofPathText "/h").pseudoPath false
      = ["/c", "/b", "/a"] := by
    decide +kernel
  have hreply : (ListedIndex.toRawIndex fun _ : Unit => builds).mainFiles
      (DocumentUri.ofPathText "/h").pseudoPath false () = (⟨["/c", "/b", "/a"], []⟩, ()) := by
    rw [← hfound]
    rfl
  have hdated (name : String) (date : Timestamp)
      (hname : DocumentUri.ofPathText name ≠ .ofPathText "/c")
      (hdate : builds.latestUnitDate (FilePath.ofText name).normalize.text = some date) :
      UnitVerdict workbench .inMemoryModifiedFiles (ListedIndex.toRawIndex fun _ => builds)
        (.ofPathText name) none () (decide (⟨5⟩ ≤ date)) [] () := by
    have hcompares : workbench.Compares .inMemoryModifiedFiles (.ofPathText name) :=
      ⟨nofun, fun _ => decide_eq_false hname⟩
    have hreal : workbench.canonicalize (FilePath.ofText name).normalize
        = .ok (FilePath.ofText name).normalize := rfl
    exact .dated hcompares rfl hreal rfl hdate (Snapshot.isNewest_iff.mpr rfl)
  have hedited : UnitVerdict workbench .inMemoryModifiedFiles
      (ListedIndex.toRawIndex fun _ => builds) (.ofPathText "/c") none () false [] () :=
    .edited rfl (by decide)
  have hkeeps : KeepsBuilt workbench .inMemoryModifiedFiles
      (ListedIndex.toRawIndex fun _ => builds) ()
      [.ofPathText "/c", .ofPathText "/b", .ofPathText "/a"] [.ofPathText "/a"] [] () :=
    .unbuilt hedited (.unbuilt (hdated "/b" ⟨3⟩ (by decide) (by decide +kernel))
      (.built (hdated "/a" ⟨7⟩ (by decide) (by decide +kernel)) .nil))
  exact (((hmainFiles _ _ _ _ hreply).1 _ _ _).mp hkeeps).1

end View

end FreshIndex
