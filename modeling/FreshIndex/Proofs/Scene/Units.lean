import FreshIndex.Proofs.Checker.Links
import FreshIndex.Proofs.Scene.Checker
import FreshIndex.Proofs.View.Enumeration

/-!
This module contains the table by which it is decided whether a unit is up to date, and the proof
that a checker decides by it, however it came by what it remembers. The files and what the editor
holds do not change; the index is any, and may change when it is asked.
-/

namespace FreshIndex

variable {σ α : Type} {m : Snapshot} {level : CheckLevel} {index : RawIndex σ}
  {file : DocumentUri} {mainFile : Option DocumentUri} {ds es : List Diagnostic} {s s' : σ}

/-- What is reported while an index finds an answer. -/
def Reply.reported (reply : Reply α) : List Diagnostic :=
  reply.events.filterMap Event.diagnostic?

namespace Snapshot

/-- The level calls for a comparison of a file with its unit, and no editor holds changes to it. -/
def Compares (m : Snapshot) (level : CheckLevel) (file : DocumentUri) : Prop :=
  level ≠ .deletedFiles ∧ (level.asksEditor = true → m.hasUnsavedEdits file = false)

def machine (m : Snapshot) : Host Unit :=
  .ofSnapshot fun _ => m

/-- The latest date in the chain of links from a file on. -/
def IsNewest (m : Snapshot) (file : DocumentUri) (newest : Timestamp) : Prop :=
  ∃ path links last modified, file = .file path ∧
    Checker.LinksTo m.machine path () links last () ∧ links.length ≤ 40 ∧
    m.stat last = .ok ⟨modified, false⟩ ∧
    newest.IsLatest (links.map (·.modified) ++ [modified])

/-- In the chain of links from a file on, something is missing. What is no file is missing, too. -/
def IsGone (m : Snapshot) (file : DocumentUri) : Prop :=
  ∀ path, file = .file path →
    ∃ cause, Checker.FailsFirst m.machine 40 path () cause ∧ cause.kind = .notFound

/-- In the chain of links from a file on, something cannot be examined, or the chain is too long. -/
def IsObscure (m : Snapshot) (file : DocumentUri) (cause : IoError) : Prop :=
  ∃ path, file = .file path ∧
    ((Checker.FailsFirst m.machine 40 path () cause ∧ cause.kind ≠ .notFound) ∨
      cause = Checker.tooManyLinks path ∧ ∃ links last modified,
        Checker.LinksTo m.machine path () links last () ∧ links.length = 40 ∧
        m.stat last = .ok ⟨modified, true⟩)

theorem modificationTime_file (m : Snapshot) (path : FilePath) :
    m.modificationTime (.file path) = ModificationTime.ofLatest
      (Checker.latestInChain m.machine path Checker.maxHops path ⟨(), []⟩).1 := by
  have hlatest : (Checker.latestInChain m.machine path Checker.maxHops path ⟨(), []⟩).1
      = m.latestInChain path Checker.maxHops path :=
    (Checker.leads_latestInChain ⟨.modifiedFiles, m, .empty⟩ path Checker.maxHops path
      ⟨(), []⟩ rfl).1
  rw [hlatest]
  unfold modificationTime
  cases hsearch : m.latestInChain path Checker.maxHops path with
  | error e => simp only [DocumentUri.filePath?, hsearch, ModificationTime.ofLatest]
  | ok modified => simp only [DocumentUri.filePath?, hsearch, ModificationTime.ofLatest]

theorem modificationTime_other (m : Snapshot) (address : String) :
    m.modificationTime (.other address) = .ok .fileDoesNotExist :=
  rfl

theorem isNewest_iff {newest : Timestamp} :
    m.IsNewest file newest ↔ m.modificationTime file = .ok (.date newest) := by
  unfold IsNewest
  cases file with
  | other address => simp [modificationTime_other]
  | file path =>
    rw [modificationTime_file, ModificationTime.ofLatest_eq_date_iff,
      Checker.latestInChain_eq_ok_iff]
    constructor
    . rintro ⟨_, links, last, modified, ⟨⟩, hlinks, hlength, hstat, hlatest⟩
      exact ⟨links, last, (), modified, (), hlinks, hlength, Prod.ext hstat rfl, hlatest⟩
    . rintro ⟨links, last, _, modified, _, hlinks, hlength, hstat, hlatest⟩
      exact ⟨path, links, last, modified, rfl, hlinks, hlength, congrArg Prod.fst hstat, hlatest⟩

theorem isGone_iff : m.IsGone file ↔ m.modificationTime file = .ok .fileDoesNotExist := by
  unfold IsGone
  cases file with
  | other address => simp [modificationTime_other]
  | file path =>
    rw [modificationTime_file, ModificationTime.ofLatest_eq_missing_iff]
    constructor
    . intro h
      obtain ⟨cause, hfails, hkind⟩ := h path rfl
      exact ⟨cause, Checker.latestInChain_eq_error_iff.mpr (.inl hfails), hkind⟩
    . rintro ⟨cause, herror, hkind⟩ _ ⟨⟩
      rcases Checker.latestInChain_eq_error_iff.mp herror with hfails | ⟨rfl, _⟩
      . exact ⟨cause, hfails, hkind⟩
      . cases hkind

theorem isObscure_iff {cause : IoError} :
    m.IsObscure file cause ↔ m.modificationTime file = .error cause := by
  unfold IsObscure
  cases file with
  | other address => simp [modificationTime_other]
  | file path =>
    rw [modificationTime_file, ModificationTime.ofLatest_eq_error_iff,
      Checker.latestInChain_eq_error_iff]
    constructor
    . rintro ⟨_, ⟨⟩, ⟨hfails, hkind⟩ | ⟨rfl, links, last, modified, hlinks, hlength, hstat⟩⟩
      . exact ⟨.inl hfails, hkind⟩
      . exact ⟨.inr ⟨rfl, links, last, (), modified, (), hlinks, hlength, Prod.ext hstat rfl⟩,
          nofun⟩
    . rintro ⟨hfails | ⟨rfl, links, last, _, modified, _, hlinks, hlength, hstat⟩, hkind⟩
      . exact ⟨path, rfl, .inl ⟨hfails, hkind⟩⟩
      . exact ⟨path, rfl, .inr ⟨rfl, links, last, modified, hlinks, hlength,
          congrArg Prod.fst hstat⟩⟩

end Snapshot

/--
Whether a file has a unit that is up to date, what is reported on the way, and in which state the
index is afterwards. The unit is looked up by the real path of the main file, if there is one, and
held against the date of the file itself.
-/
inductive UnitVerdict (m : Snapshot) (level : CheckLevel) (index : RawIndex σ)
    (file : DocumentUri) (mainFile : Option DocumentUri) (s : σ) :
    Bool → List Diagnostic → σ → Prop
  | uncompared (hlevel : level = .deletedFiles) :
    UnitVerdict m level index file mainFile s true [] s
  | edited (hasks : level.asksEditor = true) (hedits : m.hasUnsavedEdits file = true) :
    UnitVerdict m level index file mainFile s false [] s
  | noFile (hcompares : m.Compares level file) (hpath : (mainFile.getD file).filePath? = none) :
    UnitVerdict m level index file mainFile s false [] s
  | missing {path : FilePath} {e : IoError} (hcompares : m.Compares level file)
    (hpath : (mainFile.getD file).filePath? = some path) (hreal : m.canonicalize path = .error e)
    (hkind : e.kind = .notFound) : UnitVerdict m level index file mainFile s false [] s
  | unresolved {path : FilePath} {e : IoError} (hcompares : m.Compares level file)
    (hpath : (mainFile.getD file).filePath? = some path) (hreal : m.canonicalize path = .error e)
    (hkind : e.kind ≠ .notFound) :
    UnitVerdict m level index file mainFile s true [.realPathUnknown path e] s
  | noUnit {path real : FilePath} {reply : Reply (Option Timestamp)} {s' : σ}
    (hcompares : m.Compares level file) (hpath : (mainFile.getD file).filePath? = some path)
    (hreal : m.canonicalize path = .ok real) (hreply : index.unitDate real.text s = (reply, s'))
    (hdate : reply.value = none) :
    UnitVerdict m level index file mainFile s false reply.reported s'
  | gone {path real : FilePath} {reply : Reply (Option Timestamp)} {date : Timestamp} {s' : σ}
    (hcompares : m.Compares level file) (hpath : (mainFile.getD file).filePath? = some path)
    (hreal : m.canonicalize path = .ok real) (hreply : index.unitDate real.text s = (reply, s'))
    (hdate : reply.value = some date) (hgone : m.IsGone file) :
    UnitVerdict m level index file mainFile s false reply.reported s'
  | undecided {path real : FilePath} {reply : Reply (Option Timestamp)} {date : Timestamp} {s' : σ}
    {e : IoError}
    (hcompares : m.Compares level file) (hpath : (mainFile.getD file).filePath? = some path)
    (hreal : m.canonicalize path = .ok real) (hreply : index.unitDate real.text s = (reply, s'))
    (hdate : reply.value = some date) (hobscure : m.IsObscure file e) :
    UnitVerdict m level index file mainFile s true (reply.reported ++ [.unitUndecided file e]) s'
  | dated {path real : FilePath} {reply : Reply (Option Timestamp)} {date newest : Timestamp}
    {s' : σ}
    (hcompares : m.Compares level file) (hpath : (mainFile.getD file).filePath? = some path)
    (hreal : m.canonicalize path = .ok real) (hreply : index.unitDate real.text s = (reply, s'))
    (hdate : reply.value = some date) (hnewest : m.IsNewest file newest) :
    UnitVerdict m level index file mainFile s (decide (newest ≤ date)) reply.reported s'

theorem UnitVerdict.unique {answer answer' : Bool} {s₁ s₂ : σ}
    (h : UnitVerdict m level index file mainFile s answer ds s₁)
    (h' : UnitVerdict m level index file mainFile s answer' es s₂) :
    answer = answer' ∧ ds = es ∧ s₁ = s₂ := by
  -- Any two rows exclude each other, and a row has one outcome.
  cases h <;> cases h' <;> simp_all [Snapshot.Compares, CheckLevel.asksEditor,
    Snapshot.isGone_iff, Snapshot.isObscure_iff, Snapshot.isNewest_iff]

namespace World

/-- The machine and the index are in the state `s`, and so far `ds` was reported. -/
structure Stands (s : σ) (ds : List Diagnostic) (w : World σ) : Prop where
  state : w.state = s
  told : w.Told ds

theorem leads_emitAll (events : List Event) :
    Leads (Stands s ds) (emitAll events) ()
      (Stands s (ds ++ events.filterMap Event.diagnostic?)) := by
  rintro w ⟨rfl, rfl⟩
  rw [emitAll_eq]
  refine ⟨rfl, rfl, ?_⟩
  unfold Told diagnostics World.events
  simp

theorem leads_ask_of_eq {call : Call} {question : σ → α × σ} {a : α} (h : question s = (a, s')) :
    Leads (Stands s ds) (ask call question) a (Stands s' ds) := by
  rintro w ⟨rfl, rfl⟩
  unfold ask
  rw [h]
  refine ⟨rfl, rfl, ?_⟩
  unfold Told
  rw [diagnostics_cons]
  exact List.append_nil _

theorem leads_askIndex_of_eq {call : Call} {question : σ → Reply α × σ} {reply : Reply α}
    (h : question s = (reply, s')) :
    Leads (Stands s ds) (askIndex call question) reply.value
      (Stands s' (ds ++ reply.reported)) := by
  unfold askIndex
  apply Leads.bind (leads_ask_of_eq h)
  apply Leads.bind (leads_emitAll reply.events)
  exact Leads.pure

theorem leads_report_stands (d : Diagnostic) :
    Leads (Stands s ds) (report d) () (Stands s (ds ++ [d])) := by
  rintro w ⟨rfl, htold⟩
  exact ⟨rfl, rfl, (leads_report d w htold).2⟩

end World

/-- The action does not change the state of the machine. -/
def Stays (act : StateM (Checking σ) α) : Prop :=
  ∀ c, (act c).2.world.state = c.world.state

namespace Stays

variable {β : Type}

theorem pure {a : α} : Stays (pure a : StateM (Checking σ) α) := by
  intro c
  rfl

theorem bind {act : StateM (Checking σ) α} {next : α → StateM (Checking σ) β} (hact : Stays act)
    (hnext : ∀ a, Stays (next a)) : Stays (act >>= next) := by
  intro c
  exact (hnext _ _).trans (hact c)

theorem get_bind {next : Checking σ → StateM (Checking σ) α} (hnext : ∀ c, Stays (next c)) :
    Stays (get >>= next) := by
  intro c
  exact hnext c c

theorem modify (f : Checker → Checker) :
    Stays (modify fun c => { c with checker := f c.checker } : StateM (Checking σ) PUnit) := by
  intro c
  rfl

theorem ask {call : Call} {question : σ → α × σ} (h : ∀ s, (question s).2 = s) :
    Stays (Checking.inWorld (World.ask call question)) := by
  intro c
  exact h c.world.state

end Stays

namespace Checker

theorem stays_latestInChain (m : Snapshot) (start : FilePath) (hops : Nat) (current : FilePath) :
    Stays (σ := σ)
      (Checking.inWorld (latestInChain (.ofSnapshot fun _ => m) start hops current)) := by
  unfold latestInChain
  simp only [inWorld_bind]
  apply Stays.bind (.ask fun _ => rfl)
  rintro (e | stat)
  . exact .pure
  . dsimp only
    split
    . exact .pure
    . cases hops with
      | zero => exact .pure
      | succ hops =>
        simp only [inWorld_bind]
        apply Stays.bind (.ask fun _ => rfl)
        rintro (e | target)
        . exact .pure
        . simp only [inWorld_bind]
          apply Stays.bind (stays_latestInChain m start hops (linkDestination current target))
          rintro (e | later)
          . exact .pure
          . exact .pure
termination_by hops

theorem stays_modificationTime (m : Snapshot) (uri : DocumentUri) :
    Stays (σ := σ) (modificationTime (.ofSnapshot fun _ => m) uri) := by
  have hfind : Stays (σ := σ)
      (Checking.inWorld (findModificationTime (.ofSnapshot fun _ => m) uri)) := by
    unfold findModificationTime
    cases uri.filePath? with
    | none => exact .pure
    | some path =>
      simp only [inWorld_bind]
      apply Stays.bind (stays_latestInChain m path maxHops path)
      rintro (e | modified)
      . dsimp only
        split
        . exact .pure
        . exact .pure
      . exact .pure
  unfold modificationTime
  apply Stays.get_bind
  intro c
  cases c.checker.modificationTimes.get? uri with
  | some time => exact .pure
  | none =>
    apply Stays.bind hfind
    rintro (e | time)
    . exact .pure
    . refine Stays.bind (.modify fun k =>
        { k with modificationTimes := k.modificationTimes.insert uri time }) ?_
      intro _
      exact .pure

theorem stays_hasUnsavedEdits (m : Snapshot) (uri : DocumentUri) :
    Stays (σ := σ) (hasUnsavedEdits (.ofSnapshot fun _ => m) uri) := by
  unfold hasUnsavedEdits
  apply Stays.get_bind
  intro c
  dsimp only
  cases c.checker.level.asksEditor with
  | false => exact .pure
  | true =>
    simp only [if_true]
    cases c.checker.unsavedEdits.get? uri with
    | some answer => exact .pure
    | none =>
      apply Stays.bind (.ask fun _ => rfl)
      intro answer
      refine Stays.bind (.modify fun k =>
        { k with unsavedEdits := k.unsavedEdits.insert uri answer }) ?_
      intro _
      exact .pure

end Checker

namespace Checking

/--
The checker has a level and remembers what the machine would answer again. The index is in the state
`s`, and so far `ds` was reported.
-/
structure Stands (m : Snapshot) (level : CheckLevel) (s : σ) (ds : List Diagnostic)
    (c : Checking σ) : Prop where
  within : c.Within ⟨level, m, .empty⟩ ds
  state : c.world.state = s

theorem leads_inWorld_stands {act : StateM (World σ) α} {a : α}
    (h : Leads (World.Stands s ds) act a (World.Stands s' es)) :
    Leads (Stands m level s ds) (inWorld act) a (Stands m level s' es) := by
  rintro c ⟨⟨hlevel, haccurate, htold⟩, hstate⟩
  obtain ⟨hanswer, hafter⟩ := h c.world ⟨hstate, htold⟩
  exact ⟨hanswer, ⟨hlevel, haccurate, hafter.told⟩, hafter.state⟩

theorem leads_stands {act : StateM (Checking σ) α} {a : α} (hstays : Stays act)
    (h : Leads (Within ⟨level, m, .empty⟩ ds) act a (Within ⟨level, m, .empty⟩ es)) :
    Leads (Stands m level s ds) act a (Stands m level s es) := by
  rintro c ⟨hwithin, hstate⟩
  obtain ⟨hanswer, hafter⟩ := h c hwithin
  exact ⟨hanswer, hafter, (hstays c).trans hstate⟩

end Checking

namespace Checker

theorem ends_hasFreshUnit (m : Snapshot) (level : CheckLevel) (index : RawIndex σ)
    (file : DocumentUri) (mainFile : Option DocumentUri) (s : σ) (ds : List Diagnostic) :
    Ends (Checking.Stands m level s ds)
      (hasFreshUnit (.ofSnapshot fun _ => m) index file mainFile) fun answer c =>
        ∃ es s', UnitVerdict m level index file mainFile s answer es s' ∧
          Checking.Stands m level s' (ds ++ es) c := by
  have hdone {answer : Bool} {es : List Diagnostic} {s' : σ}
      (hverdict : UnitVerdict m level index file mainFile s answer es s') :
      Ends (Checking.Stands m level s' (ds ++ es)) (pure answer) fun answer c =>
        ∃ es s', UnitVerdict m level index file mainFile s answer es s' ∧
          Checking.Stands m level s' (ds ++ es) c :=
    Ends.pure fun c hc => ⟨es, s', hverdict, hc⟩
  have hsilent {answer : Bool} (hverdict : UnitVerdict m level index file mainFile s answer [] s) :=
    hdone hverdict
  simp only [List.append_nil] at hsilent
  unfold hasFreshUnit
  apply Ends.get_bind
  intro c hc
  have hlevel : c.checker.level = level := hc.within.level
  rw [hlevel]
  by_cases hdeleted : level = .deletedFiles
  . simp only [if_pos hdeleted]
    exact hsilent (.uncompared hdeleted)
  . simp only [if_neg hdeleted]
    refine Ends.bind_of_leads (Checking.leads_stands (stays_hasUnsavedEdits m file)
      (leads_hasUnsavedEdits ⟨level, m, .empty⟩ file)) ?_
    dsimp only
    cases hedits : level.asksEditor && m.hasUnsavedEdits file with
    | true =>
      simp only [if_true]
      rw [Bool.and_eq_true] at hedits
      exact hsilent (.edited hedits.1 hedits.2)
    | false =>
      simp only [Bool.false_eq_true, if_false]
      have hcompares : m.Compares level file := ⟨hdeleted, by simpa using hedits⟩
      cases hpath : (mainFile.getD file).filePath? with
      | none => exact hsilent (.noFile hcompares hpath)
      | some path =>
        refine Ends.bind_of_leads (Checking.leads_inWorld_stands
          (World.leads_ask_of_eq (a := m.canonicalize path) rfl)) ?_
        cases hreal : m.canonicalize path with
        | error e =>
          by_cases hkind : e.kind = .notFound
          . simp only [hkind, if_true]
            exact hsilent (.missing hcompares hpath hreal hkind)
          . simp only [hkind, if_false]
            refine Ends.bind_of_leads
              (Checking.leads_inWorld_stands (World.leads_report_stands _)) ?_
            exact hdone (.unresolved hcompares hpath hreal hkind)
        | ok real =>
          rcases hreply : index.unitDate real.text s with ⟨reply, s'⟩
          refine Ends.bind_of_leads (Checking.leads_inWorld_stands
            (World.leads_askIndex_of_eq hreply)) ?_
          cases hdate : reply.value with
          | none => exact hdone (.noUnit hcompares hpath hreal hreply hdate)
          | some date =>
            refine Ends.bind_of_leads (Checking.leads_stands (stays_modificationTime m file)
              (leads_modificationTime ⟨level, m, .empty⟩ file)) ?_
            dsimp only
            cases htime : m.modificationTime file with
            | error e =>
              refine Ends.bind_of_leads
                (Checking.leads_inWorld_stands (World.leads_report_stands _)) ?_
              rw [List.append_assoc]
              exact hdone (.undecided hcompares hpath hreal hreply hdate
                (Snapshot.isObscure_iff.mpr htime))
            | ok time =>
              cases time with
              | fileDoesNotExist =>
                exact hdone (.gone hcompares hpath hreal hreply hdate
                  (Snapshot.isGone_iff.mpr htime))
              | date newest =>
                exact hdone (.dated hcompares hpath hreal hreply hdate
                  (Snapshot.isNewest_iff.mpr htime))

end Checker

end FreshIndex
