import FreshIndex.Proofs.Checker.Trace
import FreshIndex.Proofs.Scene.View

/-!
This module contains what the enumerations and lists of a view show: that part of what the index has
which the checker finds fresh when it comes to it, in the order of the index. Nothing is looked at
after the occurrence at which a visitor stops. The machine may answer differently each time.
-/

namespace FreshIndex

variable {σ τ : Type} {host : Host σ} {visitor : Occurrence → τ → Flow × τ}

inductive Enumeration
  | occurrences (usr : String) (roles : Roles)
  | containing (pattern : String) (options : PatternOptions)
  | named (name : String)

namespace Enumeration

/-- What the index has to visit. -/
def scan (index : RawIndex σ) : Enumeration → StateM (World σ) Scan
  | occurrences usr roles => World.ask (.occurrences usr roles) (index.occurrences usr roles)
  | containing pattern options =>
    World.ask (.containing pattern) (index.containing pattern options)
  | named name => World.ask (.named name) (index.named name)

def each (g : Gate σ) (visitor : Occurrence → τ → Flow × τ) (t : τ) :
    Enumeration → StateM (View σ) (Flow × τ)
  | occurrences usr roles => View.eachOccurrence g usr roles visitor t
  | containing pattern options => View.eachContaining g pattern options visitor t
  | named name => View.eachNamed g name visitor t

end Enumeration

inductive Listing
  | occurrencesOf (usr : String) (roles : Roles)
  | relatedTo (usr : String) (roles : Roles)
  | unitTests
  | unitTestsFor (paths : List String)

namespace Listing

/-- The list that the index has. -/
def found (index : RawIndex σ) : Listing → StateM (World σ) (List Occurrence)
  | occurrencesOf usr roles => index.occurrencesOf usr roles
  | relatedTo usr roles => index.relatedTo usr roles
  | unitTests => index.allUnitTests
  | unitTestsFor paths => index.unitTestsFor paths

def fresh (g : Gate σ) : Listing → StateM (View σ) (List Occurrence)
  | occurrencesOf usr roles => View.occurrencesOf g usr roles
  | relatedTo usr roles => View.relatedTo g usr roles
  | unitTests => View.unitTests g
  | unitTestsFor paths => View.unitTestsFor g paths

end Listing

/-- A checker goes over occurrences in turn, from `c` to `c'`, and finds `kept` of them fresh. -/
inductive Checks (host : Host σ) :
    (c : Checking σ) → (os kept : List Occurrence) → (c' : Checking σ) → Prop
  | nil {c : Checking σ} : Checks host c [] [] c
  | fresh {c c' c'' : Checking σ} {o : Occurrence} {rest kept : List Occurrence}
    (hfresh : Checker.isFresh host o.location c = (true, c'))
    (hrest : Checks host c' rest kept c'') :
    Checks host c (o :: rest) (o :: kept) c''
  | stale {c c' c'' : Checking σ} {o : Occurrence} {rest kept : List Occurrence}
    (hstale : Checker.isFresh host o.location c = (false, c'))
    (hrest : Checks host c' rest kept c'') : Checks host c (o :: rest) kept c''

/-- A visitor is shown occurrences in turn, from `t` to `t'`, and stops at none of them. -/
inductive Shown (visitor : Occurrence → τ → Flow × τ) : (t : τ) → List Occurrence → (t' : τ) → Prop
  | nil {t : τ} : Shown visitor t [] t
  | cons {t t' t'' : τ} {o : Occurrence} {rest : List Occurrence}
    (hvisit : visitor o t = (.proceed, t')) (hrest : Shown visitor t' rest t'') :
    Shown visitor t (o :: rest) t''

/--
How occurrences are gone over that a visitor is to be shown if they are fresh: all of them, or all
before the one at which the visitor stops, and this one.
-/
inductive Passage (host : Host σ) (visitor : Occurrence → τ → Flow × τ) (os : List Occurrence)
    (c : Checking σ) (t : τ) : Flow → τ → Checking σ → Prop
  | ended {kept : List Occurrence} {c' : Checking σ} {t' : τ} (hchecks : Checks host c os kept c')
    (hshown : Shown visitor t kept t') : Passage host visitor os c t .proceed t' c'
  | stopped {before after kept : List Occurrence} {o : Occurrence} {c' c'' : Checking σ}
    {t' t'' : τ} (hos : os = before ++ o :: after) (hchecks : Checks host c before kept c')
    (hshown : Shown visitor t kept t') (hfresh : Checker.isFresh host o.location c' = (true, c''))
    (hstop : visitor o t' = (.stop, t'')) : Passage host visitor os c t .stop t'' c''

/-- What is reported at the end of a scan is reported if it comes to its end. -/
def Scan.close (scan : Scan) (flow : Flow) (c : Checking σ) : Checking σ :=
  if flow = .proceed then (Checking.inWorld (World.emitAll scan.closing) c).2 else c

namespace Checks

variable {c c' d d' : Checking σ} {os kept kept' : List Occurrence}

theorem sublist (h : Checks host c os kept c') : kept.Sublist os := by
  induction h with
  | nil => exact .slnil
  | fresh _ _ ih => exact ih.cons_cons _
  | stale _ _ ih => exact ih.cons _

/-- What is found fresh does not depend on what was seen before. -/
theorem unique (h : Checks host c os kept c') (h' : Checks host d os kept' d')
    (halike : c.Alike d) : kept = kept' := by
  induction h generalizing d kept' with
  | nil =>
    cases h'
    rfl
  | fresh hfresh _ ih =>
    obtain ⟨hanswer, hafter⟩ := Checker.ignoresTrace_isFresh host _ _ _ halike
    cases h' with
    | fresh hfresh' hrest' =>
      rw [hfresh, hfresh'] at hafter
      rw [ih hrest' hafter]
    | stale hstale' hrest' =>
      rw [hfresh, hstale'] at hanswer
      cases hanswer
  | stale hstale _ ih =>
    obtain ⟨hanswer, hafter⟩ := Checker.ignoresTrace_isFresh host _ _ _ halike
    cases h' with
    | fresh hfresh' hrest' =>
      rw [hstale, hfresh'] at hanswer
      cases hanswer
    | stale hstale' hrest' =>
      rw [hstale, hstale'] at hafter
      exact ih hrest' hafter

end Checks

namespace Passage

variable {c c' c'' : Checking σ} {t t' t'' : τ} {o : Occurrence} {rest : List Occurrence}
  {flow : Flow}

theorem cons_fresh (hfresh : Checker.isFresh host o.location c = (true, c'))
    (hvisit : visitor o t = (.proceed, t')) (h : Passage host visitor rest c' t' flow t'' c'') :
    Passage host visitor (o :: rest) c t flow t'' c'' := by
  cases h with
  | ended hchecks hshown => exact .ended (.fresh hfresh hchecks) (.cons hvisit hshown)
  | stopped hos hchecks hshown hfresh' hstop =>
    subst hos
    exact .stopped rfl (.fresh hfresh hchecks) (.cons hvisit hshown) hfresh' hstop

theorem cons_stale (hstale : Checker.isFresh host o.location c = (false, c'))
    (h : Passage host visitor rest c' t flow t'' c'') :
    Passage host visitor (o :: rest) c t flow t'' c'' := by
  cases h with
  | ended hchecks hshown => exact .ended (.stale hstale hchecks) hshown
  | stopped hos hchecks hshown hfresh' hstop =>
    subst hos
    exact .stopped rfl (.stale hstale hchecks) hshown hfresh' hstop

end Passage

/-- What a visitor that never stops makes of what it is shown. -/
theorem Shown.eq_foldl {f : Occurrence → τ → τ} {t t' : τ} {os : List Occurrence}
    (h : Shown (fun o t => (.proceed, f o t)) t os t') : t' = os.foldl (fun t o => f o t) t := by
  induction h with
  | nil => rfl
  | cons hvisit _ ih =>
    cases hvisit
    exact ih

theorem World.emitAll_eq (events : List Event) (w : World σ) :
    emitAll events w = ((), ⟨w.state, events.reverse ++ w.trace⟩) := by
  induction events generalizing w with
  | nil => rfl
  | cons e rest ih =>
    have hcons : emitAll (e :: rest) w = emitAll rest ⟨w.state, e :: w.trace⟩ := rfl
    rw [hcons, ih, List.reverse_cons, List.append_assoc]
    rfl

/-- A scan is closed if the visitor does not stop it. -/
theorem Scan.ask_each_eq {call : Call} (question : σ → Scan × σ)
    (visitor : Occurrence → τ → Flow × τ) (t : τ) (w : World σ) :
    let scan := (question w.state).1
    let result := visit visitor scan.visited t
    (World.ask call question >>= fun scan => scan.each visitor t) w
      = (result, ⟨(question w.state).2,
          (if result.1 = .proceed then scan.closing else []).reverse
            ++ .call call :: w.trace⟩) := by
  unfold World.ask each
  simp only [bind, StateT.bind]
  rcases visit visitor (question w.state).1.visited t with ⟨flow, t'⟩
  cases flow with
  | proceed =>
    simp only [if_true]
    rw [StateT.bind, World.emitAll_eq]
    rfl
  | stop => rfl

theorem RawIndex.occurrencesOf_eq (index : RawIndex σ) (usr : String) (roles : Roles)
    (w : World σ) :
    index.occurrencesOf usr roles w = ((index.occurrences usr roles w.state).1.visited,
      ⟨(index.occurrences usr roles w.state).2,
        (index.occurrences usr roles w.state).1.closing.reverse
          ++ .call (.occurrences usr roles) :: w.trace⟩) := by
  unfold occurrencesOf eachOccurrence Scan.each World.ask
  simp only [bind, StateT.bind, View.visit_collect, if_true, World.emitAll_eq, List.append_nil]
  exact congrArg (·, _) (List.reverse_reverse _)

namespace View

variable (g : Gate σ) (v : View σ)

theorem visitFresh_passage (visitor : Occurrence → τ → Flow × τ) (os : List Occurrence) (t : τ) :
    ∃ c, Passage g.host visitor os v.toChecking t (visitFresh g visitor os t v).1.1
        (visitFresh g visitor os t v).1.2 c ∧
      (visitFresh g visitor os t v).2 = { v with toChecking := c } := by
  induction os generalizing t v with
  | nil => exact ⟨v.toChecking, .ended .nil .nil, rfl⟩
  | cons o rest ih =>
    rcases hjudged : Checker.isFresh g.host o.location v.toChecking with ⟨isFresh, c⟩
    have hcheck : inChecker (Checker.isFresh g.host o.location) v
        = (isFresh, { v with toChecking := c }) := by
      simp only [inChecker, hjudged]
    unfold visitFresh
    simp only [bind, StateT.bind, hcheck]
    cases isFresh with
    | false =>
      obtain ⟨c', hpassage, hview⟩ := ih { v with toChecking := c } t
      exact ⟨c', hpassage.cons_stale hjudged, hview⟩
    | true =>
      rcases hvisit : visitor o t with ⟨flow, t'⟩
      cases flow with
      | stop => exact ⟨c, .stopped rfl .nil .nil hjudged hvisit, rfl⟩
      | proceed =>
        obtain ⟨c', hpassage, hview⟩ := ih { v with toChecking := c } t'
        exact ⟨c', hpassage.cons_fresh hjudged hvisit, hview⟩

theorem retainFresh_checks (os : List Occurrence) :
    ∃ c, Checks g.host v.toChecking os (retainFresh g os v).1 c ∧
      (retainFresh g os v).2 = { v with toChecking := c } := by
  induction os generalizing v with
  | nil => exact ⟨v.toChecking, .nil, rfl⟩
  | cons o rest ih =>
    rcases hjudged : Checker.isFresh g.host o.location v.toChecking with ⟨isFresh, c⟩
    have hcheck : inChecker (Checker.isFresh g.host o.location) v
        = (isFresh, { v with toChecking := c }) := by
      simp only [inChecker, hjudged]
    obtain ⟨c', hchecks, hview⟩ := ih { v with toChecking := c }
    unfold retainFresh
    simp only [bind, StateT.bind, hcheck]
    cases isFresh with
    | false => exact ⟨c', .stale hjudged hchecks, hview⟩
    | true => exact ⟨c', .fresh hjudged hchecks, hview⟩

theorem eachFresh_passage (scan : Scan) (visitor : Occurrence → τ → Flow × τ) (t : τ) :
    ∃ c, Passage g.host visitor scan.visited v.toChecking t (eachFresh g scan visitor t v).1.1
        (eachFresh g scan visitor t v).1.2 c ∧
      (eachFresh g scan visitor t v).2
        = { v with toChecking := scan.close (eachFresh g scan visitor t v).1.1 c } := by
  obtain ⟨c, hpassage, hview⟩ := visitFresh_passage g v visitor scan.visited t
  rcases hvisit : visitFresh g visitor scan.visited t v with ⟨⟨flow, t'⟩, v'⟩
  simp only [hvisit] at hpassage hview
  subst hview
  unfold eachFresh Scan.close
  simp only [bind, StateT.bind, hvisit]
  cases flow with
  | stop => exact ⟨c, hpassage, rfl⟩
  | proceed => exact ⟨c, hpassage, rfl⟩

theorem listing_checks (l : Listing) :
    ∃ c, Checks g.host ⟨v.checker, (l.found g.index v.world).2⟩ (l.found g.index v.world).1
        (l.fresh g v).1 c ∧
      (l.fresh g v).2 = { v with toChecking := c } := by
  have hfresh : l.fresh g v
      = retainFresh g (l.found g.index v.world).1
          { v with world := (l.found g.index v.world).2 } := by
    cases l <;> rfl
  rw [hfresh]
  exact retainFresh_checks g { v with world := (l.found g.index v.world).2 } _

theorem enumeration_passage (e : Enumeration) (visitor : Occurrence → τ → Flow × τ) (t : τ) :
    ∃ c, Passage g.host visitor (e.scan g.index v.world).1.visited
        ⟨v.checker, (e.scan g.index v.world).2⟩ t (e.each g visitor t v).1.1
        (e.each g visitor t v).1.2 c ∧
      (e.each g visitor t v).2
        = { v with toChecking :=
            (e.scan g.index v.world).1.close (e.each g visitor t v).1.1 c } := by
  have heach : e.each g visitor t v
      = eachFresh g (e.scan g.index v.world).1 visitor t
          { v with world := (e.scan g.index v.world).2 } := by
    cases e <;> rfl
  rw [heach]
  exact eachFresh_passage g { v with world := (e.scan g.index v.world).2 } _ visitor t

/-- Asked for a list, the index visits the same, but closes the scan before anything is checked. -/
theorem found_occurrencesOf (w : World σ) (usr : String) (roles : Roles) :
    ((Listing.occurrencesOf usr roles).found g.index w).1
      = ((Enumeration.occurrences usr roles).scan g.index w).1.visited ∧
    ((Listing.occurrencesOf usr roles).found g.index w).2.state
      = ((Enumeration.occurrences usr roles).scan g.index w).2.state := by
  unfold Listing.found
  dsimp only
  rw [RawIndex.occurrencesOf_eq]
  exact ⟨rfl, rfl⟩

theorem eachOccurrence_foldl (usr : String) (roles : Roles) (f : Occurrence → τ → τ) (t : τ) :
    (eachOccurrence g usr roles (fun o t => (.proceed, f o t)) t v).1
      = (.proceed, (occurrencesOf g usr roles v).1.foldl (fun t o => f o t) t) := by
  obtain ⟨_, hpassage, _⟩ :=
    enumeration_passage g v (.occurrences usr roles) (fun o t => (.proceed, f o t)) t
  obtain ⟨_, hlisted, _⟩ := listing_checks g v (.occurrencesOf usr roles)
  obtain ⟨hvisited, hstate⟩ := found_occurrencesOf g v.world usr roles
  change Passage g.host _ _ _ t (eachOccurrence g usr roles (fun o t => (.proceed, f o t)) t v).1.1
    (eachOccurrence g usr roles (fun o t => (.proceed, f o t)) t v).1.2 _ at hpassage
  rw [hvisited] at hlisted
  generalize eachOccurrence g usr roles (fun o t => (.proceed, f o t)) t v = result at hpassage ⊢
  rcases result with ⟨⟨flow, t'⟩, _⟩
  cases hpassage with
  | stopped _ _ _ _ hstop => cases hstop
  | ended hchecks hshown =>
    have hkept := hchecks.unique hlisted ⟨rfl, hstate.symm⟩
    rw [hkept] at hshown
    exact congrArg (Prod.mk Flow.proceed) hshown.eq_foldl

/--
An enumeration shows what is fresh of what the index visits, up to where the visitor stops, and a
list is what is fresh of the list of the index.
-/
theorem queries_showFresh (g : Gate σ) (v : View σ) :
    (∀ (e : Enumeration) {τ : Type} (visitor : Occurrence → τ → Flow × τ) (t : τ),
      ∃ c, Passage g.host visitor (e.scan g.index v.world).1.visited
          ⟨v.checker, (e.scan g.index v.world).2⟩ t (e.each g visitor t v).1.1
          (e.each g visitor t v).1.2 c ∧
        (e.each g visitor t v).2
          = { v with toChecking :=
              (e.scan g.index v.world).1.close (e.each g visitor t v).1.1 c }) ∧
    (∀ l : Listing, ((l.fresh g v).1.Sublist (l.found g.index v.world).1) ∧
      ∃ c, Checks g.host ⟨v.checker, (l.found g.index v.world).2⟩ (l.found g.index v.world).1
          (l.fresh g v).1 c ∧
        (l.fresh g v).2 = { v with toChecking := c }) ∧
    ∀ (usr : String) (roles : Roles) {τ : Type} (f : Occurrence → τ → τ) (t : τ),
      (eachOccurrence g usr roles (fun o t => (.proceed, f o t)) t v).1
        = (.proceed, (occurrencesOf g usr roles v).1.foldl (fun t o => f o t) t) := by
  refine ⟨?_, ?_, ?_⟩
  . intro e τ visitor t
    apply enumeration_passage
  . intro l
    obtain ⟨c, hchecks, hview⟩ := listing_checks g v l
    exact ⟨hchecks.sublist, c, hchecks, hview⟩
  . intro usr roles τ f t
    apply eachOccurrence_foldl

end View

end FreshIndex
