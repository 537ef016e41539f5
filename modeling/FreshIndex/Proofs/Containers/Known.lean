import FreshIndex.Proofs.Containers.Resolution

/-!
This module contains the proof that a view knows only true names of containers, as long as nothing
was refused when it looked them up and every container goes by one symbol.
-/

namespace FreshIndex

def Occurrence.symbols (o : Occurrence) : List Symbol :=
  o.symbol :: o.relations.map (·.symbol)

variable {S : Scene} {μ : Memory} {o next : Occurrence} {c d : Symbol} {names : List String}
  {usr : String} {os : List Occurrence} {symbols : List Symbol} {known : Memo String (List String)}

/-- Symbols of one `usr` have one name and kind. -/
def AreConsistent (symbols : List Symbol) : Prop :=
  ∀ c ∈ symbols, ∀ d ∈ symbols, c.usr = d.usr → c.name = d.name ∧ c.kind = d.kind

instance : Decidable (AreConsistent symbols) :=
  inferInstanceAs (Decidable (∀ c ∈ symbols, ∀ d ∈ symbols,
    c.usr = d.usr → c.name = d.name ∧ c.kind = d.kind))

theorem AreConsistent.eq (h : AreConsistent symbols) (hc : c ∈ symbols) (hd : d ∈ symbols)
    (husr : c.usr = d.usr) : c = d := by
  obtain ⟨hname, hkind⟩ := h c hc d hd husr
  cases c
  cases d
  simp_all

theorem Occurrence.container?_mem_symbols (h : o.container? = some c) : c ∈ o.symbols := by
  obtain ⟨r, hr, rfl⟩ := Option.map_eq_some_iff.mp h
  have hchild := (List.mem_filter.mp (mem_of_least? hr)).1
  have hmem := (List.mem_filter.mp hchild).1
  exact List.mem_cons_of_mem _ (List.mem_map_of_mem hmem)

namespace Scene

theorem mem_of_variableDefinition (h : S.variableDefinition o = some next) :
    next ∈ S.lists.occurrences := by
  obtain ⟨v, _, hv⟩ := Option.bind_eq_some_iff.mp h
  exact (S.definitionsOrDeclarations_sublist v.usr).subset (mem_of_least? hv)

theorem mem_of_containerDefinition (h : S.containerDefinition c = some next) :
    next ∈ S.lists.occurrences :=
  (S.occurrencesOf_sublist _ _).subset (List.mem_of_head? h)

/-- Every name that is known is that of one of the symbols and true. -/
def Confirms (S : Scene) (symbols : List Symbol) (known : Memo String (List String)) : Prop :=
  ∀ usr names, known.get? usr = some names →
    ∃ c ∈ symbols, c.usr = usr ∧ S.ResolvesContainer c names

end Scene

namespace Trail

/-- Every container on the way is one of the symbols and has on it the names that it truly has. -/
def IsTrue (S : Scene) (symbols : List Symbol) : Trail → Prop
  | outermost => True
  | accessor rest => IsTrue S symbols rest
  | refusedAccessor rest => IsTrue S symbols rest
  | container usr name rest =>
    (∃ c ∈ symbols, c.usr = usr ∧ S.ResolvesContainer c (rest.names ++ [name])) ∧
      IsTrue S symbols rest
  | refusedContainer _ _ => True

variable {t : Trail}

theorem agreesWith_of_isTrue (hsymbols : AreConsistent symbols) (hknown : S.Confirms symbols known)
    (hopen : t.IsOpen) (htrue : t.IsTrue S symbols) : t.AgreesWith known := by
  induction t with
  | outermost => trivial
  | accessor rest ih => exact ih hopen htrue
  | refusedAccessor _ _ => cases hopen
  | refusedContainer _ _ => cases hopen
  | container usr name rest ih =>
    obtain ⟨⟨c, hc, husr, hnames⟩, hrest⟩ := htrue
    unfold AgreesWith
    cases h : known.get? usr with
    | none => exact ih hopen hrest
    | some names =>
      obtain ⟨d, hd, husr', hnames'⟩ := hknown usr names h
      -- The names were kept for some symbol of this `usr`; there is no second one.
      have hsame : c = d := hsymbols.eq hc hd (by rw [husr, husr'])
      rw [hsame] at hnames
      exact hnames.unique hnames'

theorem confirms_remember (hsymbols : AreConsistent symbols) (hknown : S.Confirms symbols known)
    (hopen : t.IsOpen) (htrue : t.IsTrue S symbols) : S.Confirms symbols (t.remember known) := by
  induction t with
  | outermost => exact hknown
  | accessor rest ih => exact ih hopen htrue
  | refusedAccessor _ _ => cases hopen
  | refusedContainer _ _ => cases hopen
  | container usr name rest ih =>
    obtain ⟨hcontainer, hrest⟩ := htrue
    unfold remember
    cases known.get? usr with
    | some names => exact hknown
    | none =>
      -- What is kept now was put together from what was known, which agrees with the rest.
      have hagrees := agreesWith_of_isTrue (t := rest) hsymbols hknown hopen hrest
      intro usr' names h
      dsimp only at h
      rw [Memo.get?_insert, (namesBy_eq_iff known rest).mpr hagrees] at h
      split at h
      . rename_i husr
        cases h
        rw [husr]
        exact hcontainer
      . exact ih hopen hrest usr' names h

end Trail

namespace Scene

theorem isTrue_trail (hos : S.lists.occurrences ⊆ os) (depth : Nat) (ho : o ∈ os)
    (hsize : μ.size ≤ View.maxDepth) (hdepth : View.maxDepth < μ.size + depth)
    (hopen : (S.trail depth μ o).IsOpen) :
    (S.trail depth μ o).IsTrue S (os.flatMap Occurrence.symbols) := by
  induction depth generalizing μ o with
  | zero => omega
  | succ depth ih =>
    have ih_enter (a : Attempt) (next : Occurrence) (hnext : next ∈ S.lists.occurrences)
        (hlt : μ.size < View.maxDepth) (hopen : (S.trail depth (μ.enter a) next).IsOpen) :
        (S.trail depth (μ.enter a) next).IsTrue S (os.flatMap Occurrence.symbols) := by
      have hsize_enter := μ.size_enter a
      exact ih (hos hnext) (by omega) (by omega) hopen
    obtain ⟨next, hvariable, hlt, htrail⟩ | ⟨_, _, htrail⟩ |
      ⟨c, hvariable, hcontainer, hlt, htrail⟩ := trail_succ_of_isOpen hopen
    . rw [htrail] at hopen ⊢
      exact ih_enter _ next (mem_of_variableDefinition hvariable) hlt hopen
    . rw [htrail]
      trivial
    . rw [htrail] at hopen ⊢
      constructor
      . refine ⟨c, ?_, rfl, ?_⟩
        . exact List.mem_flatMap.mpr ⟨o, ho, Occurrence.container?_mem_symbols hcontainer⟩
        . apply resolvesContainer_trailBeyond _ hopen
          intro next
          have hsize_enter := μ.size_enter (.container c.usr)
          exact resolves_trail depth (by omega) (by omega)
      . unfold trailBeyond
        cases hdefinition : S.containerDefinition c with
        | none => trivial
        | some next =>
          change (S.trailBeyond (S.trail depth) μ c).IsOpen at hopen
          unfold trailBeyond at hopen
          simp only [hdefinition] at hopen
          exact ih_enter (.container c.usr) next (mem_of_containerDefinition hdefinition) hlt hopen

end Scene

end FreshIndex
