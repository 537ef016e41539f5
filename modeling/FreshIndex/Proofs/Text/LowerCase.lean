import FreshIndex.Text.LowerCase

/-!
This module contains how the lower case of a part of a text depends on what stands around the part:
by its capital sigmas alone, and by each of them only as far as the next character that counts.
-/

namespace FreshIndex.Text

theorem Ranges.contains_eq_any (ranges : Ranges) (c : Char) :
    ranges.contains c = ranges.toList.any fun (lo, hi) => lo ≤ c.toNat && c.toNat ≤ hi :=
  Array.any_toList.symm

namespace LowerCase

theorem ofChar_ne_nil (c : Char) : ofChar c ≠ [] := by
  unfold ofChar
  split
  . exact List.cons_ne_nil _ _
  . split
    . exact List.cons_ne_nil _ _
    . exact List.cons_ne_nil _ _

/-- Whether a sigma between `before`, latest first, and `after` ends a word. -/
def endsWord (before after : List Char) : Bool :=
  meetsCased before && !meetsCased after

/-- The lower case of `c` where it stands between `before`, latest first, and `after`. -/
def ofCharAmid (before : List Char) (c : Char) (after : List Char) : List Char :=
  if c = 'Σ' then
    if endsWord before after then ['ς'] else ['σ']
  else
    ofChar c

theorem ofCharAmid_ne_nil (before : List Char) (c : Char) (after : List Char) :
    ofCharAmid before c after ≠ [] := by
  unfold ofCharAmid
  split
  . split
    . exact List.cons_ne_nil _ _
    . exact List.cons_ne_nil _ _
  . exact ofChar_ne_nil c

theorem ofCharAmid_of_ne {c : Char} (h : c ≠ 'Σ') (before after : List Char) :
    ofCharAmid before c after = ofChar c :=
  if_neg h

/-- Nothing stands before the first character of a text, so that a sigma there ends no word. -/
theorem ofCharAmid_nil (c : Char) (after after' : List Char) :
    ofCharAmid [] c after = ofCharAmid [] c after' :=
  rfl

/-- The lower case of `cs` where it stands between `before`, latest first, and `after`. -/
def amid (before : List Char) : (cs after : List Char) → List Char
  | [], _ => []
  | c :: rest, after => ofCharAmid before c (rest ++ after) ++ amid (c :: before) rest after

theorem go_eq_amid (before cs : List Char) : go before cs = amid before cs [] := by
  induction cs generalizing before with
  | nil => rfl
  | cons c rest ih =>
    rw [go, amid, ih, List.append_nil]
    rfl

theorem toList_lowerCase (s : String) : (lowerCase s).toList = amid [] s.toList [] := by
  rw [lowerCase, String.toList_ofList, go_eq_amid]

variable {before before' after after' cs : List Char}

theorem amid_append (before cs cs' after : List Char) :
    amid before (cs ++ cs') after
      = amid before cs (cs' ++ after) ++ amid (cs.reverse ++ before) cs' after := by
  induction cs generalizing before with
  | nil => rfl
  | cons c rest ih =>
    rw [List.cons_append, amid, amid, ih, List.append_assoc, List.append_assoc,
      List.reverse_cons, List.append_assoc]
    rfl

theorem amid_ne_nil (h : cs ≠ []) : amid before cs after ≠ [] := by
  cases cs with
  | nil => exact absurd rfl h
  | cons c rest => exact List.append_ne_nil_of_left_ne_nil (ofCharAmid_ne_nil _ _ _) _

theorem go_ne_nil (before rest : List Char) (c : Char) : go before (c :: rest) ≠ [] := by
  rw [go_eq_amid]
  exact amid_ne_nil (List.cons_ne_nil c rest)

/-- What stands around matters only to the sigmas. -/
theorem amid_congr
    (h : ∀ u v, cs = u ++ 'Σ' :: v →
      endsWord (u.reverse ++ before) (v ++ after) = endsWord (u.reverse ++ before') (v ++ after')) :
    amid before cs after = amid before' cs after' := by
  induction cs generalizing before before' with
  | nil => rfl
  | cons c rest ih =>
    rw [amid, amid]
    congr 1
    . unfold ofCharAmid
      split
      . rename_i hc
        have hends := h [] rest (by rw [hc]; rfl)
        rw [List.reverse_nil, List.nil_append, List.nil_append] at hends
        rw [hends]
      . rfl
    . apply ih
      intro u v hrest
      have hends := h (c :: u) v (by rw [hrest]; rfl)
      rw [List.reverse_cons, List.append_assoc, List.append_assoc] at hends
      exact hends

theorem amid_of_noSigma (h : 'Σ' ∉ cs) (before after : List Char) :
    amid before cs after = cs.flatMap ofChar := by
  induction cs generalizing before with
  | nil => rfl
  | cons c rest ih =>
    rw [amid, ih (fun hmem => h (List.mem_cons_of_mem c hmem)), List.flatMap_cons,
      ofCharAmid_of_ne]
    rintro rfl
    exact h List.mem_cons_self

/-- Characters other than sigmas keep their lower case in a longer text. -/
theorem flatMap_sublist_amid {cs' : List Char} (h : cs.Sublist cs') (hsigma : 'Σ' ∉ cs)
    (before after : List Char) : (cs.flatMap ofChar).Sublist (amid before cs' after) := by
  induction h generalizing before with
  | slnil => exact .slnil
  | cons c _ ih => exact (ih hsigma _).trans (List.sublist_append_right _ _)
  | cons_cons c _ ih =>
    rw [amid, List.flatMap_cons, ofCharAmid_of_ne (fun hc => hsigma (hc ▸ List.mem_cons_self))]
    exact (List.Sublist.refl _).append (ih (fun hmem => hsigma (List.mem_cons_of_mem c hmem)) _)

/-! ### How far a sigma looks -/

/-- Nothing among the characters counts when it is found out whether a word ends. -/
def isOpen (cs : List Char) : Bool :=
  cs.all isCaseIgnorable

theorem isOpen_reverse (cs : List Char) : isOpen cs.reverse = isOpen cs :=
  List.all_reverse

theorem meetsCased_nil : meetsCased [] = false :=
  rfl

theorem meetsCased_cons {c : Char} (h : isCaseIgnorable c = false) (rest : List Char) :
    meetsCased (c :: rest) = isCased c := by
  unfold meetsCased
  rw [List.dropWhile_cons_of_neg (by simp [h])]

theorem meetsCased_cons_of_ignorable {c : Char} (h : isCaseIgnorable c = true)
    (rest : List Char) : meetsCased (c :: rest) = meetsCased rest := by
  unfold meetsCased
  rw [List.dropWhile_cons_of_pos h]

theorem meetsCased_append (cs cs' : List Char) :
    meetsCased (cs ++ cs') = if isOpen cs then meetsCased cs' else meetsCased cs := by
  induction cs with
  | nil => rfl
  | cons c rest ih =>
    rw [List.cons_append, isOpen, List.all_cons]
    cases hc : isCaseIgnorable c with
    | true =>
      rw [meetsCased_cons_of_ignorable hc, meetsCased_cons_of_ignorable hc, ih, Bool.true_and]
      rfl
    | false => rw [meetsCased_cons hc, meetsCased_cons hc, Bool.false_and, if_neg (by decide)]

theorem meetsCased_of_isOpen (h : isOpen cs = true) : meetsCased cs = false := by
  have happend := meetsCased_append cs []
  rw [List.append_nil, if_pos h] at happend
  exact happend

theorem isCaseIgnorable_sigma : isCaseIgnorable 'Σ' = false := by
  rw [isCaseIgnorable, Ranges.contains_eq_any]
  decide +kernel

theorem isCased_sigma : isCased 'Σ' = true := by
  rw [isCased, Ranges.contains_eq_any]
  decide +kernel

/-- Beyond a sigma nothing is looked at, and instead of it any cased character could be met. -/
theorem meetsCased_append_sigma {c : Char} (hignorable : isCaseIgnorable c = false)
    (hcased : isCased c = true) (cs rest rest' : List Char) :
    meetsCased (cs ++ 'Σ' :: rest) = meetsCased (cs ++ c :: rest') := by
  rw [meetsCased_append, meetsCased_append, meetsCased_cons isCaseIgnorable_sigma,
    meetsCased_cons hignorable, hcased, isCased_sigma]

theorem noSigma_of_isOpen (h : isOpen cs = true) : 'Σ' ∉ cs := by
  intro hmem
  have hignorable := List.all_eq_true.mp h _ hmem
  rw [isCaseIgnorable_sigma] at hignorable
  cases hignorable

end LowerCase

end FreshIndex.Text
