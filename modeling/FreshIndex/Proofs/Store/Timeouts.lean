import FreshIndex.Proofs.Number.Numeral
import FreshIndex.Proofs.Store.Failures

/-!
This module contains which configurations end a run. Every time to wait that fits in 64 bits is
accepted when the configuration is read, but a connection can be told less. With a time between the
two, every action over a connection ends the run, and with any other it returns.
-/

namespace FreshIndex

variable {σ α : Type}

namespace World

variable {act : StateM (World σ) α} {w : World σ}

/-- The action asks the index one thing and has a result, with at most one entry in the log. -/
def Returns (act : StateM (World σ) α) (w : World σ) : Prop :=
  ∃ call, ∃ log : List LogEntry, log.length ≤ 1 ∧
    (act w).2.trace = log.map .log ++ .call call :: w.trace

/-- The action asks the index one thing, at which the run ends. -/
def EndsRun (act : StateM (World σ) α) (w : World σ) : Prop :=
  ∃ call, (act w).2.trace = .timeoutTooLong :: .call call :: w.trace

theorem not_endsRun_of_returns (h : Returns act w) : ¬ EndsRun act w := by
  obtain ⟨call, log, _, htrace⟩ := h
  rintro ⟨call', hends⟩
  rw [hends] at htrace
  cases log with
  | nil => cases htrace
  | cons entry log => cases htrace

end World

namespace Store

namespace StoredIndex

variable {i : StoredIndex} {query : StoredQuery} {act : StateM (World σ) α} {w : World σ}

/-- An action over a connection: it returns if the connection can be told the time to wait. -/
structure Connects (i : StoredIndex) (act : StateM (World σ) α) (w : World σ) : Prop where
  returns_iff : World.Returns act w ↔ i.busyTimeout ≤ maxBusyTimeout
  endsRun_iff : World.EndsRun act w ↔ maxBusyTimeout < i.busyTimeout

/-- What happens while a query is answered: one entry in the log, or the end of the run. -/
structure Happens (i : StoredIndex) (events : List Event) : Prop where
  logged : i.canConnect = true → ∃ log : List LogEntry, log.length ≤ 1 ∧ events = log.map .log
  ended : i.canConnect = false → events = [.timeoutTooLong]

theorem connects_of_happens {call : Call} {events : List Event}
    (htrace : (act w).2.trace = events.reverse ++ .call call :: w.trace)
    (h : i.Happens events) : i.Connects act w := by
  cases hconnect : i.canConnect with
  | true =>
    have hwithin : i.busyTimeout ≤ maxBusyTimeout := of_decide_eq_true hconnect
    obtain ⟨log, hlength, rfl⟩ := h.logged hconnect
    have hreturns : World.Returns act w := by
      refine ⟨call, log.reverse, ?_, ?_⟩
      . rwa [List.length_reverse]
      . rw [htrace, List.map_reverse]
    constructor
    . simp [hreturns, hwithin]
    . simp [World.not_endsRun_of_returns hreturns, hwithin]
  | false =>
    have hbeyond : ¬ i.busyTimeout ≤ maxBusyTimeout := of_decide_eq_false hconnect
    have hends : World.EndsRun act w := by
      refine ⟨call, ?_⟩
      rw [htrace, h.ended hconnect]
      rfl
    have hnever : ¬ World.Returns act w := fun hreturns =>
      World.not_endsRun_of_returns hreturns hends
    constructor
    . simp [hnever, hbeyond]
    . simpa [hends] using hbeyond

theorem failureEvents_eq_map (query : StoredQuery) (failure : Option StoreError) :
    ∃ log : List LogEntry, log.length ≤ 1 ∧ failureEvents query failure = log.map .log := by
  cases failure with
  | none => exact ⟨[], by simp, rfl⟩
  | some cause => exact ⟨[.queryFailed query cause], by simp, rfl⟩

theorem happens_reply (fallback : α) (result : Except StoreError α) :
    i.Happens (i.reply query fallback result).events := by
  unfold reply
  constructor
  . intro hconnect
    rw [if_pos hconnect]
    cases result with
    | ok value => exact ⟨[], by simp, rfl⟩
    | error cause => exact failureEvents_eq_map query (some cause)
  . intro hconnect
    rw [if_neg (by simp [hconnect])]

theorem happens_pollReply (db : Database) : i.Happens (i.pollReply db).events := by
  unfold pollReply reply
  constructor
  . intro hconnect
    rw [if_pos hconnect]
    cases db.synchronize with
    | ok units => exact ⟨[.synchronized i.path.text units], by simp, rfl⟩
    | error cause => exact ⟨[.queryFailed .poll cause], by simp, rfl⟩
  . intro hconnect
    rw [if_neg (by simp [hconnect])]
    rfl

theorem happens_closing (outcome : Outcome) : i.Happens (i.scan query outcome).closing := by
  unfold scan
  constructor
  . intro hconnect
    rw [if_pos hconnect]
    exact failureEvents_eq_map query outcome.failure
  . intro hconnect
    rw [if_neg (by simp [hconnect])]

/-- A visitor cannot stop a scan that ends the run, for there is nothing to be shown. -/
theorem happens_each {τ : Type} (outcome : Outcome) (visitor : Occurrence → τ → Flow × τ) (t : τ) :
    let scan := i.scan query outcome
    i.Happens (if (Scan.visit visitor scan.visited t).1 = .proceed then scan.closing else []) := by
  dsimp only
  split
  . exact happens_closing outcome
  . next hstop =>
    constructor
    . intro _
      exact ⟨[], by simp, rfl⟩
    . intro hconnect
      rw [scan, if_neg (by simp [hconnect])] at hstop
      exact absurd rfl hstop

theorem connects_askIndex {call : Call} {question : σ → Reply α × σ}
    (h : i.Happens (question w.state).1.events) : i.Connects (World.askIndex call question) w :=
  connects_of_happens (by rw [World.askIndex_eq]) h

theorem connects_each {τ : Type} {call : Call} {question : σ → Scan × σ} {outcome : Outcome}
    (hscan : (question w.state).1 = i.scan query outcome) (visitor : Occurrence → τ → Flow × τ)
    (t : τ) : i.Connects (World.ask call question >>= fun scan => scan.each visitor t) w := by
  apply connects_of_happens (by rw [Scan.ask_each_eq])
  rw [hscan]
  exact happens_each outcome visitor t

theorem connects_eachOf {τ : Type} (e : Enumeration) (database : σ → Database)
    (visitor : Occurrence → τ → Flow × τ) (t : τ) :
    i.Connects (e.eachOf (i.toRawIndex database) visitor t) w := by
  cases e with
  | occurrences usr roles => exact connects_each rfl visitor t
  | containing pattern options => exact connects_each rfl visitor t
  | named name => exact connects_each rfl visitor t

theorem connects_found (l : Listing) (database : σ → Database) (hasks : l ≠ .unitTestsFor []) :
    i.Connects (l.found (i.toRawIndex database)) w := by
  cases l with
  | occurrencesOf usr roles =>
    apply connects_of_happens (by rw [Listing.found, RawIndex.occurrencesOf_eq])
    exact happens_closing _
  | relatedTo usr roles => exact connects_askIndex (happens_reply [] _)
  | unitTests => exact connects_askIndex (happens_reply [] _)
  | unitTestsFor paths =>
    apply connects_askIndex
    dsimp only [toRawIndex, unitTestsReply]
    have hpaths : paths ≠ [] := by
      rintro rfl
      exact hasks rfl
    rw [if_neg (by simpa using hpaths)]
    exact happens_reply [] _

end StoredIndex

end Store

open Store StoredIndex

namespace Config

/-- The time to wait is given as a number that fits in 64 bits and is more than can be waited. -/
def AsksTooLong (lookup : String → Option String) : Prop :=
  ∃ raw milliseconds, lookup timeoutVariable = some raw ∧
    Numeral.readNat 10 (Nat.pow 2 64 - 1) (Text.trim raw).toList = .ok milliseconds ∧
    maxBusyTimeout < milliseconds

/-- A time to wait that is too long is one that was asked for, since the standard one is not. -/
theorem asksTooLong_iff (lookup : String → Option String) :
    AsksTooLong lookup ↔ maxBusyTimeout < (ofLookup lookup).1.busyTimeout := by
  have htimeout : (ofLookup lookup).1.busyTimeout = (readTimeout (lookup timeoutVariable)).1 := rfl
  have hstandard : ¬ maxBusyTimeout < standard.busyTimeout := by decide
  rw [htimeout]
  unfold AsksTooLong readTimeout
  cases lookup timeoutVariable with
  | none => simpa using hstandard
  | some raw =>
    dsimp only
    cases hread : Numeral.readNat 10 (Nat.pow 2 64 - 1) (Text.trim raw).toList with
    | ok milliseconds => simp [hread]
    | error cause => simp [hread, hstandard]

end Config

namespace Store.StoredIndex

/--
With a configuration that was read from settings, an action over a connection ends the run if the
time to wait that is asked for is too long, and else returns with at most one entry in the log. Only
the query for tests of no files makes no connection.
-/
theorem connects_ofLookup (lookup : String → Option String) (path : FilePath)
    (database : σ → Database) (w : World σ) :
    let i : StoredIndex := ⟨path, (Config.ofLookup lookup).1.busyTimeout⟩
    let index := i.toRawIndex database
    (Config.AsksTooLong lookup ↔ maxBusyTimeout < i.busyTimeout) ∧
      (∀ (e : Enumeration) {τ : Type} (visitor : Occurrence → τ → Flow × τ) (t : τ),
        i.Connects (e.eachOf index visitor t) w) ∧
      (∀ l : Listing, l ≠ .unitTestsFor [] → i.Connects (l.found index) w) ∧
      World.Returns (index.unitTestsFor []) w ∧
      (∀ path, i.Connects (index.symbolsIn path) w) ∧
      (∀ path crossLanguage, i.Connects (index.mainFilesOf path crossLanguage) w) ∧
      (∀ path, i.Connects (index.latestUnitDate path) w) ∧
      i.Connects index.waitForUnits w ∧
      ∀ db : Database,
        (Config.AsksTooLong lookup → (i.setUp db).1.events = [.timeoutTooLong]) ∧
        (¬ Config.AsksTooLong lookup →
          i.setUp db = (⟨db.setUp.failure, []⟩, db.setUp.database)) := by
  dsimp only
  refine ⟨Config.asksTooLong_iff lookup, ?_, ?_, ?_, ?_, ?_, ?_, ?_, ?_⟩
  . intro e τ visitor t
    exact connects_eachOf e database visitor t
  . intro l hasks
    exact connects_found l database hasks
  . exact ⟨.unitTestsOf [], [], by simp, rfl⟩
  . intro path
    exact connects_askIndex (happens_reply [] _)
  . intro path crossLanguage
    exact connects_askIndex (happens_reply [] _)
  . intro path
    exact connects_askIndex (happens_reply none _)
  . exact connects_askIndex (happens_pollReply _)
  . intro db
    rw [Config.asksTooLong_iff]
    unfold setUp
    constructor
    . intro hlong
      rw [if_neg (by simpa [canConnect] using hlong)]
    . intro hwithin
      rw [if_pos (by simpa [canConnect] using hwithin)]

/-- The settings that ask for a time to wait and say nothing else. -/
def asking (raw : String) : String → Option String :=
  fun name => if name = Config.timeoutVariable then some raw else none

def ofAsking (raw : String) : StoredIndex :=
  ⟨.ofText "/index", (Config.ofLookup (asking raw)).1.busyTimeout⟩

/-- With the longest time that a connection can be told, a query returns. -/
theorem returns_longestTimeout :
    ¬ Config.AsksTooLong (asking "2147483647") ∧
      World.Returns (((ofAsking "2147483647").toRawIndex id).occurrencesOf "u" .all)
        ⟨Database.empty, []⟩ := by
  have htimeout : (Config.ofLookup (asking "2147483647")).1.busyTimeout = maxBusyTimeout := by
    decide +kernel
  obtain ⟨hasks, _, hlists, _⟩ :=
    connects_ofLookup (asking "2147483647") (.ofText "/index") id ⟨Database.empty, []⟩
  refine ⟨?_, ?_⟩
  . rw [hasks, htimeout]
    exact Nat.lt_irrefl _
  . apply (hlists (.occurrencesOf "u" .all) (by simp)).returns_iff.mpr
    exact Nat.le_of_eq htimeout

/-- A time that is longer by a millisecond is accepted without a warning and ends the run. -/
theorem endsRun_acceptedTimeout :
    Config.ofLookup (asking "2147483648") = (⟨.deleted, 2147483648⟩, []) ∧
      World.EndsRun (((ofAsking "2147483648").toRawIndex id).occurrencesOf "u" .all)
        ⟨Database.empty, []⟩ ∧
      ¬ World.Returns (((ofAsking "2147483648").toRawIndex id).occurrencesOf "u" .all)
        ⟨Database.empty, []⟩ := by
  have hends : World.EndsRun (((ofAsking "2147483648").toRawIndex id).occurrencesOf "u" .all)
      ⟨Database.empty, []⟩ := by
    refine ⟨.occurrences "u" .all, ?_⟩
    decide +kernel
  refine ⟨by decide +kernel, hends, ?_⟩
  intro hreturns
  exact World.not_endsRun_of_returns hreturns hends

end Store.StoredIndex

end FreshIndex
