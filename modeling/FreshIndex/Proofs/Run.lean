/-!
This module contains how runs of actions on a state are spoken of: an action leads from one set of
states to another with a given result. An action that can fail leaves the state that it has reached.
The rules follow the shape of a `do` block.
-/

namespace FreshIndex

variable {S ε α β : Type}

theorem run_bind_eq {act : StateM S α} {next : α → StateM S β} {s s' : S} {a : α}
    (h : act s = (a, s')) : (act >>= next) s = next a s' := by
  change next (act s).1 (act s).2 = next a s'
  rw [h]

/-- From every state in `P` the action ends in `Q` with the result `a`. -/
def Leads (P : S → Prop) (act : StateM S α) (a : α) (Q : S → Prop) : Prop :=
  ∀ s, P s → (act s).1 = a ∧ Q (act s).2

namespace Leads

variable {P Q R : S → Prop} {a : α} {b : β}

theorem pure : Leads P (pure a : StateM S α) a P := by
  intro s hs
  exact ⟨rfl, hs⟩

theorem bind {act : StateM S α} {next : α → StateM S β} (ha : Leads P act a Q)
    (hb : Leads Q (next a) b R) : Leads P (act >>= next) b R := by
  intro s hs
  obtain ⟨ha1, ha2⟩ := ha s hs
  have hb := hb _ ha2
  rw [← ha1] at hb
  exact hb

theorem get_bind {next : S → StateM S β} (h : ∀ s, P s → Leads P (next s) b Q) :
    Leads P (get >>= next) b Q := by
  intro s hs
  exact h s hs s hs

/-- The rule for a block that writes back the state that it has read. -/
theorem get_bind_eq {next : S → StateM S β} (h : ∀ s, P s → Leads (· = s) (next s) b Q) :
    Leads P (get >>= next) b Q := by
  intro s hs
  exact h s hs s rfl

theorem modify {f : S → S} (h : ∀ s, P s → Q (f s)) :
    Leads P (modify f : StateM S PUnit) () Q := by
  intro s hs
  exact ⟨rfl, h s hs⟩

theorem set {s' : S} (h : Q s') : Leads P (set s' : StateM S PUnit) () Q := by
  intro s _
  exact ⟨rfl, h⟩

theorem weaken {act : StateM S α} (h : Leads P act a Q) (hpre : ∀ s, R s → P s) :
    Leads R act a Q := by
  intro s hs
  exact h s (hpre s hs)

end Leads

/-- From every state in `P` the action ends with a result and a state that `Q` admits. -/
def Ends (P : S → Prop) (act : StateM S α) (Q : α → S → Prop) : Prop :=
  ∀ s, P s → Q (act s).1 (act s).2

namespace Ends

variable {P : S → Prop} {Q : α → S → Prop} {R : β → S → Prop} {a : α}

theorem pure (h : ∀ s, P s → Q a s) : Ends P (pure a : StateM S α) Q :=
  h

theorem bind {act : StateM S α} {next : α → StateM S β} (ha : Ends P act Q)
    (hb : ∀ a, Ends (Q a) (next a) R) : Ends P (act >>= next) R := by
  intro s hs
  exact hb _ _ (ha s hs)

/-- The rule for a run from one state, of which what it does is kept as an equation. -/
theorem bind_eq {act : StateM S α} {next : α → StateM S β} {s : S}
    (h : ∀ a s', act s = (a, s') → Ends (· = s') (next a) R) :
    Ends (· = s) (act >>= next) R := by
  rintro _ rfl
  exact h _ _ rfl _ rfl

theorem bind_of_leads {act : StateM S α} {next : α → StateM S β} {Q : S → Prop}
    (ha : Leads P act a Q) (hb : Ends Q (next a) R) : Ends P (act >>= next) R := by
  intro s hs
  obtain ⟨hanswer, hafter⟩ := ha s hs
  have hb := hb _ hafter
  rw [← hanswer] at hb
  exact hb

theorem get_bind {next : S → StateM S β} (h : ∀ s, P s → Ends P (next s) R) :
    Ends P (get >>= next) R := by
  intro s hs
  exact h s hs s hs

/-- The rule for a block that writes back the state that it has read. -/
theorem get_bind_eq {next : S → StateM S β} (h : ∀ s, P s → Ends (· = s) (next s) R) :
    Ends P (get >>= next) R := by
  intro s hs
  exact h s hs s rfl

theorem modify {f : S → S} {Q : PUnit → S → Prop} (h : ∀ s, P s → Q ⟨⟩ (f s)) :
    Ends P (modify f : StateM S PUnit) Q :=
  h

theorem set {s' : S} {Q : PUnit → S → Prop} (h : Q ⟨⟩ s') :
    Ends P (set s' : StateM S PUnit) Q := by
  intro s _
  exact h

end Ends

/--
From every state in `P` the action ends with a result and a state that `Q` admits, or fails with an
error and a state that `E` admits.
-/
def Tries (P : S → Prop) (act : ExceptT ε (StateM S) α) (Q : α → S → Prop) (E : ε → S → Prop) :
    Prop :=
  Ends P act.run fun result s =>
    match result with
    | .ok a => Q a s
    | .error e => E e s

theorem run_get_bind (next : S → ExceptT ε (StateM S) α) (s : S) :
    (get >>= next).run s = (next s).run s :=
  rfl

namespace Tries

variable {P : S → Prop} {Q : α → S → Prop} {R : β → S → Prop} {E : ε → S → Prop} {a : α}

theorem pure (h : ∀ s, P s → Q a s) : Tries P (pure a : ExceptT ε (StateM S) α) Q E :=
  h

theorem bind {act : ExceptT ε (StateM S) α} {next : α → ExceptT ε (StateM S) β}
    (ha : Tries P act Q E) (hb : ∀ a, Tries (Q a) (next a) R E) : Tries P (act >>= next) R E := by
  -- What follows a failure is not run, and the state stays as the failure has left it.
  unfold Tries
  rw [ExceptT.run_bind]
  refine Ends.bind ha ?_
  intro result
  cases result with
  | ok a => exact hb a
  | error e => exact Ends.pure fun _ hfailed => hfailed

theorem each {act : ExceptT ε (StateM S) α} (h : ∀ s, P s → Tries (· = s) act Q E) :
    Tries P act Q E := by
  intro s hs
  exact h s hs s rfl

theorem weaken {act : ExceptT ε (StateM S) α} {P' : S → Prop} {Q' : α → S → Prop}
    {E' : ε → S → Prop} (h : Tries P act Q E) (hpre : ∀ s, P' s → P s)
    (hok : ∀ a s, Q a s → Q' a s) (herror : ∀ e s, E e s → E' e s) : Tries P' act Q' E' := by
  intro s hs
  have hends := h s (hpre s hs)
  revert hends
  rcases act.run s with ⟨e | a, s'⟩
  . exact herror e s'
  . exact hok a s'

theorem ok {act : ExceptT ε (StateM S) α} {s s' : S} (h : Tries P act Q E) (hs : P s)
    (hrun : act.run s = (.ok a, s')) : Q a s' := by
  have hends := h s hs
  rw [hrun] at hends
  exact hends

theorem error {act : ExceptT ε (StateM S) α} {e : ε} {s s' : S} (h : Tries P act Q E) (hs : P s)
    (hrun : act.run s = (.error e, s')) : E e s' := by
  have hends := h s hs
  rw [hrun] at hends
  exact hends

theorem discard {act : ExceptT ε (StateM S) α} {Q : S → Prop}
    (h : Tries P act (fun _ => Q) fun _ => Q) : Ends P (discard act.run) fun _ => Q := by
  intro s hs
  have hends := h s hs
  change Q (act.run s).2
  revert hends
  rcases act.run s with ⟨e | a, s'⟩
  . exact id
  . exact id

end Tries

end FreshIndex
