import Mathlib.Control.Monad.Basic
import FreshIndex.Proofs.Checker.Lookup
import FreshIndex.Proofs.Run

/-!
This module contains the proof that the date of a file is the latest in its chain of links, and that
the search for it ends, on a machine that may answer differently each time. Links are followed one
by one until there is none, until a question fails, or until there are too many of them; each of
these ends of the chain has its own result.
-/

namespace FreshIndex

variable {σ : Type}

namespace Timestamp

/-- The latest of some moments. -/
def IsLatest (t : Timestamp) (ts : List Timestamp) : Prop :=
  t ∈ ts ∧ ∀ u ∈ ts, u ≤ t

theorem IsLatest.unique {t u : Timestamp} {ts : List Timestamp} (ht : t.IsLatest ts)
    (hu : u.IsLatest ts) : t = u := by
  have htu := le_def.mp (hu.2 t ht.1)
  have hut := le_def.mp (ht.2 u hu.1)
  apply Timestamp.ext
  omega

theorem isLatest_foldr_max (ts : List Timestamp) (t : Timestamp) :
    (ts.foldr max t).IsLatest (ts ++ [t]) := by
  induction ts with
  | nil =>
    refine ⟨List.mem_singleton_self t, ?_⟩
    intro u hu
    rw [List.nil_append, List.mem_singleton] at hu
    subst hu
    exact Int.le_refl _
  | cons u ts ih =>
    obtain ⟨hmem, hle⟩ := ih
    refine ⟨?_, ?_⟩
    . rw [List.cons_append, List.foldr_cons]
      rcases max_eq_or u (ts.foldr max t) with h | h
      . rw [h]
        exact List.mem_cons_self
      . rw [h]
        exact List.mem_cons_of_mem u hmem
    . intro v hv
      rcases List.mem_cons.mp hv with rfl | hv
      . exact le_max_left
      . exact le_max_of_le_right (hle v hv)

end Timestamp

namespace Call

def isStat : Call → Bool
  | stat _ => true
  | _ => false

def isReadLink : Call → Bool
  | readLink _ => true
  | _ => false

end Call

namespace ModificationTime

variable {found : Except IoError Timestamp}

theorem ofLatest_eq_date_iff {t : Timestamp} : ofLatest found = .ok (.date t) ↔ found = .ok t := by
  unfold ofLatest
  split
  . simp
  . split <;> simp

theorem ofLatest_eq_missing_iff :
    ofLatest found = .ok .fileDoesNotExist ↔ ∃ e, found = .error e ∧ e.kind = .notFound := by
  unfold ofLatest
  split
  . simp
  . split <;> simp_all

theorem ofLatest_eq_error_iff {e : IoError} :
    ofLatest found = .error e ↔ found = .error e ∧ e.kind ≠ .notFound := by
  unfold ofLatest
  split
  . simp
  . split <;> grind

end ModificationTime

namespace World

theorem leads_ask_eq {α : Type} {call : Call} {question : σ → α × σ} {a : α} {s s' : σ}
    {trace : List Event} (h : question s = (a, s')) :
    Leads (· = ⟨s, trace⟩) (ask call question) a (· = ⟨s', .call call :: trace⟩) := by
  rintro w rfl
  unfold ask
  rw [h]
  exact ⟨rfl, rfl⟩

end World

namespace Checker

/-- A link that was followed, and when it was set. -/
structure FollowedLink where
  path : FilePath
  modified : Timestamp

/--
Where a link to `target` leads: to the target itself if that starts at the root, and else to where
the target leads from the directory that the link is in, if it is in one.
-/
inductive PointsTo (link target : FilePath) : FilePath → Prop
  | absolute (htarget : target.isAbsolute = true) : PointsTo link target target
  | relative {directory : FilePath} (htarget : target.isAbsolute = false)
      (hparent : link.parent? = some directory) : PointsTo link target (directory.join target)
  | unplaced (htarget : target.isAbsolute = false) (hparent : link.parent? = none) :
      PointsTo link target target

theorem pointsTo_iff {link target next : FilePath} :
    PointsTo link target next ↔ next = linkDestination link target := by
  unfold linkDestination
  constructor
  . intro h
    cases h with
    | absolute htarget => rw [if_pos htarget]
    | relative htarget hparent => rw [if_neg (by simp [htarget]), hparent]
    | unplaced htarget hparent => rw [if_neg (by simp [htarget]), hparent]
  . rintro rfl
    split
    . next htarget => exact .absolute htarget
    . next htarget =>
      rw [Bool.not_eq_true] at htarget
      cases hparent : link.parent? with
      | some directory => exact .relative htarget hparent
      | none => exact .unplaced htarget hparent

/--
From `path` on, some links lead one after the other to `last`. The state of the machine is the one
before the first link is looked at, and the one before `last` is.
-/
inductive LinksTo (host : Host σ) : FilePath → σ → List FollowedLink → FilePath → σ → Prop
  | here {path : FilePath} {s : σ} : LinksTo host path s [] path s
  | link {path target next last : FilePath} {modified : Timestamp} {links : List FollowedLink}
      {s s₁ s₂ s₃ : σ} (hstat : host.stat path s = (.ok ⟨modified, true⟩, s₁))
      (hread : host.readLink path s₁ = (.ok target, s₂)) (hnext : PointsTo path target next)
      (hrest : LinksTo host next s₂ links last s₃) :
      LinksTo host path s (⟨path, modified⟩ :: links) last s₃

/-- How a chain of links ends. -/
inductive ChainEnd
  | file (modified : Timestamp)
  | failure (cause : IoError)
  | endless

/-- How the chain ends at `path` if `hops` more links may be followed, and what is asked there. -/
inductive EndsAt (host : Host σ) (path : FilePath) (s : σ) :
    (hops : Nat) → ChainEnd → List Call → σ → Prop
  | file {hops : Nat} {modified : Timestamp} {s₁ : σ}
      (hstat : host.stat path s = (.ok ⟨modified, false⟩, s₁)) :
      EndsAt host path s hops (.file modified) [.stat path] s₁
  | unexamined {hops : Nat} {cause : IoError} {s₁ : σ}
      (hstat : host.stat path s = (.error cause, s₁)) :
      EndsAt host path s hops (.failure cause) [.stat path] s₁
  | unread {hops : Nat} {modified : Timestamp} {cause : IoError} {s₁ s₂ : σ}
      (hstat : host.stat path s = (.ok ⟨modified, true⟩, s₁))
      (hread : host.readLink path s₁ = (.error cause, s₂)) :
      EndsAt host path s (hops + 1) (.failure cause) [.stat path, .readLink path] s₂
  | endless {modified : Timestamp} {s₁ : σ}
      (hstat : host.stat path s = (.ok ⟨modified, true⟩, s₁)) :
      EndsAt host path s 0 .endless [.stat path] s₁

/-- What is found by a search from `start` that goes over links set at some moments to an end. -/
def ChainEnd.found (start : FilePath) (times : List Timestamp) : ChainEnd → Except IoError Timestamp
  | file modified => .ok (times.foldr max modified)
  | failure cause => .error cause
  | endless => .error (tooManyLinks start)

def linkCalls (links : List FollowedLink) : List Call :=
  links.flatMap fun link => [.stat link.path, .readLink link.path]

variable {host : Host σ} {start path last : FilePath} {links : List FollowedLink} {hops : Nat}
  {s s₁ s₂ : σ} {ending : ChainEnd} {calls : List Call}

theorem exists_linksTo (host : Host σ) (hops : Nat) (path : FilePath) (s : σ) :
    ∃ links last left s₁ ending calls s₂, links.length + left = hops ∧
      LinksTo host path s links last s₁ ∧ EndsAt host last s₁ left ending calls s₂ := by
  rcases hstat : host.stat path s with ⟨⟨cause⟩ | ⟨modified, isLink⟩, s₁⟩
  . exact ⟨[], path, hops, s, _, _, _, Nat.zero_add _, .here, .unexamined hstat⟩
  . cases isLink with
    | false => exact ⟨[], path, hops, s, _, _, _, Nat.zero_add _, .here, .file hstat⟩
    | true =>
      cases hops with
      | zero => exact ⟨[], path, 0, s, _, _, _, rfl, .here, .endless hstat⟩
      | succ hops =>
        rcases hread : host.readLink path s₁ with ⟨cause | target, s₂⟩
        . exact ⟨[], path, hops + 1, s, _, _, _, Nat.zero_add _, .here, .unread hstat hread⟩
        . obtain ⟨links, last, left, s₃, ending, calls, s₄, hlength, hlinks, hend⟩ :=
            exists_linksTo host hops (linkDestination path target) s₂
          refine ⟨⟨path, modified⟩ :: links, last, left, s₃, ending, calls, s₄, ?_,
            .link hstat hread (pointsTo_iff.mpr rfl) hlinks, hend⟩
          rw [List.length_cons]
          omega
termination_by hops

/-- The search goes over the links to where they end, and asks for nothing else. -/
theorem leads_latestInChain_of_linksTo (start : FilePath)
    (hlinks : LinksTo host path s links last s₁)
    (hend : EndsAt host last s₁ hops ending calls s₂) (trace : List Event) :
    Leads (· = ⟨s, trace⟩) (latestInChain host start (links.length + hops) path)
      (ending.found start (links.map (·.modified)))
      (· = ⟨s₂, ((linkCalls links ++ calls).map Event.call).reverse ++ trace⟩) := by
  -- The last path is looked at within one step. From a link on, it is a search with one link less.
  induction hlinks generalizing trace with
  | here =>
    rw [List.length_nil, Nat.zero_add]
    unfold latestInChain
    cases hend with
    | file hstat => exact Leads.bind (World.leads_ask_eq hstat) Leads.pure
    | unexamined hstat => exact Leads.bind (World.leads_ask_eq hstat) Leads.pure
    | unread hstat hread =>
      exact Leads.bind (World.leads_ask_eq hstat)
        (Leads.bind (World.leads_ask_eq hread) Leads.pure)
    | endless hstat => exact Leads.bind (World.leads_ask_eq hstat) Leads.pure
  | @link path target next last modified links s t₁ t₂ s₁ hstat hread hnext hrest ih =>
    rw [pointsTo_iff] at hnext
    subst hnext
    rw [List.length_cons, Nat.add_right_comm]
    unfold latestInChain
    apply Leads.bind (World.leads_ask_eq hstat)
    apply Leads.bind (World.leads_ask_eq hread)
    have hrest := ih hend (.call (.readLink path) :: .call (.stat path) :: trace)
    have htrace : ((linkCalls (⟨path, modified⟩ :: links) ++ calls).map Event.call).reverse ++ trace
        = ((linkCalls links ++ calls).map Event.call).reverse
          ++ .call (.readLink path) :: .call (.stat path) :: trace := by
      simp [linkCalls]
    rw [htrace]
    apply Leads.bind hrest
    cases ending with
    | file => exact Leads.pure
    | failure => exact Leads.pure
    | endless => exact Leads.pure

/--
The first question that fails on the way from `path` fails with `cause`, if at most `hops` links are
followed.
-/
def FailsFirst (host : Host σ) (hops : Nat) (path : FilePath) (s : σ) (cause : IoError) : Prop :=
  ∃ links last s₁, LinksTo host path s links last s₁ ∧
    (links.length ≤ hops ∧ (host.stat last s₁).1 = .error cause ∨
      links.length < hops ∧ ∃ modified s₂, host.stat last s₁ = (.ok ⟨modified, true⟩, s₂) ∧
        (host.readLink last s₂).1 = .error cause)

theorem failsFirst_iff {cause : IoError} :
    FailsFirst host hops path s cause ↔ ∃ links last left s₁ calls s₂, links.length + left = hops ∧
      LinksTo host path s links last s₁ ∧
      EndsAt host last s₁ left (.failure cause) calls s₂ := by
  constructor
  . rintro ⟨links, last, s₁, hlinks, ⟨hlength, hstat⟩ | ⟨hlength, modified, s₂, hstat, hread⟩⟩
    . exact ⟨links, last, hops - links.length, s₁, _, _, by omega, hlinks,
        .unexamined (Prod.ext hstat rfl)⟩
    . obtain ⟨left, hleft⟩ := Nat.exists_eq_add_of_lt hlength
      exact ⟨links, last, left + 1, s₁, _, _, by omega, hlinks,
        .unread hstat (Prod.ext hread rfl)⟩
  . rintro ⟨links, last, left, s₁, calls, s₂, hhops, hlinks, hend⟩
    refine ⟨links, last, s₁, hlinks, ?_⟩
    cases hend with
    | unexamined hstat =>
      rw [hstat]
      exact .inl ⟨by omega, rfl⟩
    | unread hstat hread =>
      refine .inr ⟨by omega, _, _, hstat, ?_⟩
      rw [hread]

theorem latestInChain_eq_ok_iff {latest : Timestamp} {w : World σ} :
    (latestInChain host start hops path w).1 = .ok latest ↔
      ∃ links last s₁ modified s₂, LinksTo host path w.state links last s₁ ∧
        links.length ≤ hops ∧ host.stat last s₁ = (.ok ⟨modified, false⟩, s₂) ∧
        latest.IsLatest (links.map (·.modified) ++ [modified]) := by
  constructor
  . intro h
    obtain ⟨links, last, left, s₁, ending, calls, s₂, rfl, hlinks, hend⟩ :=
      exists_linksTo host hops path w.state
    rw [(leads_latestInChain_of_linksTo start hlinks hend w.trace w rfl).1] at h
    cases hend with
    | file hstat =>
      cases h
      exact ⟨links, last, s₁, _, s₂, hlinks, by omega, hstat, Timestamp.isLatest_foldr_max _ _⟩
    | unexamined => cases h
    | unread => cases h
    | endless => cases h
  . rintro ⟨links, last, s₁, modified, s₂, hlinks, hlength, hstat, hlatest⟩
    obtain ⟨left, rfl⟩ := Nat.exists_eq_add_of_le hlength
    rw [(leads_latestInChain_of_linksTo start hlinks (.file hstat) w.trace w rfl).1]
    exact congrArg Except.ok ((Timestamp.isLatest_foldr_max _ _).unique hlatest)

theorem latestInChain_eq_error_iff {e : IoError} {w : World σ} :
    (latestInChain host start hops path w).1 = .error e ↔
      FailsFirst host hops path w.state e ∨
        e = tooManyLinks start ∧ ∃ links last s₁ modified s₂,
          LinksTo host path w.state links last s₁ ∧ links.length = hops ∧
          host.stat last s₁ = (.ok ⟨modified, true⟩, s₂) := by
  rw [failsFirst_iff]
  constructor
  . intro h
    obtain ⟨links, last, left, s₁, ending, calls, s₂, rfl, hlinks, hend⟩ :=
      exists_linksTo host hops path w.state
    rw [(leads_latestInChain_of_linksTo start hlinks hend w.trace w rfl).1] at h
    cases ending with
    | file => cases h
    | failure cause =>
      cases h
      exact .inl ⟨links, last, left, s₁, calls, s₂, rfl, hlinks, hend⟩
    | endless =>
      cases h
      cases hend with
      | endless hstat => exact .inr ⟨rfl, links, last, s₁, _, s₂, hlinks, rfl, hstat⟩
  . rintro (⟨links, last, left, s₁, calls, s₂, rfl, hlinks, hend⟩ |
      ⟨rfl, links, last, s₁, modified, s₂, hlinks, rfl, hstat⟩)
    . rw [(leads_latestInChain_of_linksTo start hlinks hend w.trace w rfl).1]
      rfl
    . have hrun := leads_latestInChain_of_linksTo start hlinks (.endless hstat) w.trace
      rw [Nat.add_zero] at hrun
      rw [(hrun w rfl).1]
      rfl

theorem countP_isStat (links : List FollowedLink)
    (hend : EndsAt host last s₁ hops ending calls s₂) :
    (linkCalls links ++ calls).countP Call.isStat = links.length + 1 := by
  have hlinks : (linkCalls links).countP Call.isStat = links.length := by
    induction links with
    | nil => rfl
    | cons link links ih =>
      unfold linkCalls at ih ⊢
      simp [List.countP_cons, ih, Call.isStat]
  rw [List.countP_append, hlinks]
  cases hend <;> rfl

theorem countP_isReadLink_le (links : List FollowedLink)
    (hend : EndsAt host last s₁ hops ending calls s₂) :
    (linkCalls links ++ calls).countP Call.isReadLink ≤ links.length + hops := by
  have hlinks : (linkCalls links).countP Call.isReadLink = links.length := by
    induction links with
    | nil => rfl
    | cons link links ih =>
      unfold linkCalls at ih ⊢
      simp [List.countP_cons, ih, Call.isReadLink]
  rw [List.countP_append, hlinks]
  cases hend <;> simp [Call.isReadLink]

/-- The search looks at each path of the chain once and reads each of the links that it follows. -/
theorem asks_latestInChain (host : Host σ) (start : FilePath) (hops : Nat) (path : FilePath)
    (w : World σ) :
    ∃ links last s₁ final, LinksTo host path w.state links last s₁ ∧ links.length ≤ hops ∧
      (final = [.stat last] ∨ links.length < hops ∧ final = [.stat last, .readLink last]) ∧
      (latestInChain host start hops path w).2.events
        = w.events ++ (linkCalls links ++ final).map .call ∧
      (linkCalls links ++ final).countP Call.isStat ≤ hops + 1 ∧
      (linkCalls links ++ final).countP Call.isReadLink ≤ hops := by
  obtain ⟨links, last, left, s₁, ending, calls, s₂, rfl, hlinks, hend⟩ :=
    exists_linksTo host hops path w.state
  refine ⟨links, last, s₁, calls, hlinks, by omega, ?_, ?_, ?_, countP_isReadLink_le links hend⟩
  . cases hend with
    | file => exact .inl rfl
    | unexamined => exact .inl rfl
    | unread => exact .inr ⟨by omega, rfl⟩
    | endless => exact .inl rfl
  . rw [(leads_latestInChain_of_linksTo start hlinks hend w.trace w rfl).2]
    unfold World.events
    simp
  . rw [countP_isStat links hend]
    omega

/-- What a checker knows after a look-up: a failure is not kept. -/
def keepTime (c : Checker) (uri : DocumentUri) : Except IoError ModificationTime → Checker
  | .ok time => { c with modificationTimes := c.modificationTimes.insert uri time }
  | .error _ => c

theorem findModificationTime_file (host : Host σ) (path : FilePath) (w : World σ) :
    findModificationTime host (.file path) w
      = (ModificationTime.ofLatest (latestInChain host path maxHops path w).1,
        (latestInChain host path maxHops path w).2) := by
  unfold findModificationTime ModificationTime.ofLatest
  dsimp only [DocumentUri.filePath?, bind, StateT.bind]
  rcases latestInChain host path maxHops path w with ⟨e | modified, w'⟩
  . dsimp only
    split
    . rfl
    . rfl
  . rfl

theorem modificationTime_of_unknown (host : Host σ) {c : Checking σ}
    (hunknown : c.checker.modificationTimes.get? (.file path) = none) :
    let search := latestInChain host path maxHops path c.world
    modificationTime host (.file path) c
      = (ModificationTime.ofLatest search.1,
        ⟨c.checker.keepTime (.file path) (ModificationTime.ofLatest search.1), search.2⟩) := by
  intro search
  have hlook : Checking.inWorld (findModificationTime host (.file path)) c
      = (ModificationTime.ofLatest search.1, ⟨c.checker, search.2⟩) := by
    unfold Checking.inWorld
    rw [findModificationTime_file]
  unfold modificationTime
  dsimp only [bind, StateT.bind, get, getThe, MonadStateOf.get, StateT.get, pure]
  rw [hunknown]
  unfold StateT.bind
  dsimp only
  rw [hlook]
  cases ModificationTime.ofLatest search.1 with
  | error e => rfl
  | ok time => rfl

/--
The date of a file that is not known yet is the latest in its chain of links. For this at most 41
paths are looked at and at most 40 links are read, each one where the last one leads. There is a
date if after at most 40 links comes a file that is none, the file is missing if the first question
that fails does not find what it asks for, and all else is an error, of which nothing is kept.
-/
theorem modificationTime_iff_of_links (host : Host σ) (path : FilePath) (c : Checking σ)
    (hunknown : c.checker.modificationTimes.get? (.file path) = none) :
    let found := (modificationTime host (.file path) c).1
    let after := (modificationTime host (.file path) c).2
    (∃ links last s₁ final, LinksTo host path c.world.state links last s₁ ∧ links.length ≤ 40 ∧
      (final = [.stat last] ∨ links.length < 40 ∧ final = [.stat last, .readLink last]) ∧
      after.world.events = c.world.events ++ (linkCalls links ++ final).map .call ∧
      (linkCalls links ++ final).countP Call.isStat ≤ 41 ∧
      (linkCalls links ++ final).countP Call.isReadLink ≤ 40) ∧
    (∀ latest, found = .ok (.date latest) ↔
      ∃ links last s₁ modified s₂, LinksTo host path c.world.state links last s₁ ∧
        links.length ≤ 40 ∧ host.stat last s₁ = (.ok ⟨modified, false⟩, s₂) ∧
        latest.IsLatest (links.map (·.modified) ++ [modified])) ∧
    (found = .ok .fileDoesNotExist ↔
      ∃ cause, FailsFirst host 40 path c.world.state cause ∧ cause.kind = .notFound) ∧
    (∀ e, found = .error e ↔
      (FailsFirst host 40 path c.world.state e ∧ e.kind ≠ .notFound) ∨
        e = tooManyLinks path ∧ ∃ links last s₁ modified s₂,
          LinksTo host path c.world.state links last s₁ ∧ links.length = 40 ∧
          host.stat last s₁ = (.ok ⟨modified, true⟩, s₂)) ∧
    (∀ e, found = .error e → after.checker = c.checker) := by
  intro found after
  have hrun := modificationTime_of_unknown host hunknown
  have hfound : found
      = ModificationTime.ofLatest (latestInChain host path maxHops path c.world).1 :=
    congrArg Prod.fst hrun
  have hafter : after = ⟨c.checker.keepTime (.file path) found,
      (latestInChain host path maxHops path c.world).2⟩ := by
    rw [hfound]
    exact congrArg Prod.snd hrun
  refine ⟨?_, ?_, ?_, ?_, ?_⟩
  . rw [hafter]
    exact asks_latestInChain host path maxHops path c.world
  . intro latest
    rw [hfound, ModificationTime.ofLatest_eq_date_iff, latestInChain_eq_ok_iff]
    rfl
  . rw [hfound, ModificationTime.ofLatest_eq_missing_iff]
    constructor
    . rintro ⟨e, h, hkind⟩
      rcases latestInChain_eq_error_iff.mp h with hfails | ⟨rfl, _⟩
      . exact ⟨e, hfails, hkind⟩
      . cases hkind
    . rintro ⟨e, hfails, hkind⟩
      exact ⟨e, latestInChain_eq_error_iff.mpr (.inl hfails), hkind⟩
  . intro e
    rw [hfound, ModificationTime.ofLatest_eq_error_iff, latestInChain_eq_error_iff]
    constructor
    . rintro ⟨hfails | hendless, hkind⟩
      . exact .inl ⟨hfails, hkind⟩
      . exact .inr hendless
    . rintro (⟨hfails, hkind⟩ | ⟨rfl, hendless⟩)
      . exact ⟨.inl hfails, hkind⟩
      . exact ⟨.inr ⟨rfl, hendless⟩, nofun⟩
  . intro e h
    rw [hafter, h]
    rfl

/--
Links in one directory, each to the name with one letter more, up to a file of the given number of
letters. They were set in no order of time.
-/
def staircase (letters : Nat) : Snapshot where
  stat p := .ok ⟨⟨p.octets.length * 7 % 41⟩, decide (p.octets.length < letters + 3)⟩
  readLink p := .ok ⟨0x61 :: p.octets.drop 3⟩
  canonicalize p := .ok p
  pathExists _ := true
  hasUnsavedEdits _ := false

def firstStair : FilePath :=
  .ofText "/d/a"

/-- The last path that may be looked at is no link. The latest link is the 32nd of 40. -/
theorem modificationTime_staircase :
    (ofLevel .modifiedFiles).modificationTimes.get? (.file firstStair) = none ∧
      (modificationTime (.ofSnapshot fun _ => staircase 41) (.file firstStair)
        ⟨.ofLevel .modifiedFiles, ⟨(), []⟩⟩).1 = .ok (.date ⟨40⟩) ∧
      PointsTo firstStair (.ofText "aa") (.ofText "/d/aa") ∧
      ∃ links last s₁ modified s₂,
        LinksTo (.ofSnapshot fun _ => staircase 41) firstStair () links last s₁ ∧
        links.length ≤ 40 ∧
        (Host.ofSnapshot fun _ => staircase 41).stat last s₁ = (.ok ⟨modified, false⟩, s₂) ∧
        Timestamp.IsLatest ⟨40⟩ (links.map (·.modified) ++ [modified]) := by
  have hdate : (modificationTime (.ofSnapshot fun _ => staircase 41) (.file firstStair)
      ⟨.ofLevel .modifiedFiles, ⟨(), []⟩⟩).1 = .ok (.date ⟨40⟩) := by
    decide +kernel
  obtain ⟨_, hdates, _⟩ := modificationTime_iff_of_links (.ofSnapshot fun _ => staircase 41)
    firstStair ⟨.ofLevel .modifiedFiles, ⟨(), []⟩⟩ rfl
  exact ⟨rfl, hdate, pointsTo_iff.mpr (by decide +kernel), (hdates ⟨40⟩).mp hdate⟩

/-- With one letter more there is one link more. -/
example : (modificationTime (.ofSnapshot fun _ => staircase 42) (.file firstStair)
    ⟨.ofLevel .modifiedFiles, ⟨(), []⟩⟩).1 = .error (tooManyLinks firstStair) := by
  decide +kernel

end Checker

end FreshIndex
