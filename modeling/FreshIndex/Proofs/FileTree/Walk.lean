import FreshIndex.FileTree.Basic

/-!
This module contains how a path is followed if there may be any number of links on the way, how many
they are, and the proof that it is followed so until there are too many of them.
-/

namespace FreshIndex

open Text

namespace FileTree

/-- Where one part of a path leads, and what lies ahead there before the rest of the path. -/
structure Leg where
  place : Place
  ahead : List Octets
  links : Nat

def leg (t : FileTree) (place : Place) (part : Octets) : Except WalkError Leg :=
  if !t.isDirectory place then .error .notADirectory
  else if part = here then .ok ⟨place, [], 0⟩
  else if part = above then .ok ⟨place.dropLast, [], 0⟩
  else if maxNameLength < part.length then .error .nameTooLong
  else
    match t.get? (place ++ [part]) with
    | none => .error .missing
    | some ⟨.link target, _⟩ => .ok ⟨if target.isAbsolute then [] else place, parts target, 1⟩
    | some _ => .ok ⟨place ++ [part], [], 0⟩

inductive Reaches (t : FileTree) : Place → List Octets → Place → Prop
  | arrived {place : Place} : Reaches t place [] place
  | go {place q : Place} {part : Octets} {rest : List Octets} {l : Leg}
    (hleg : t.leg place part = .ok l) (hrest : Reaches t l.place (l.ahead ++ rest) q) :
    Reaches t place (part :: rest) q

/-- The path is followed over `n` links in all. -/
inductive ReachesIn (t : FileTree) : (n : Nat) → Place → List Octets → Place → Prop
  | arrived {place : Place} : ReachesIn t 0 place [] place
  | go {n : Nat} {place q : Place} {part : Octets} {rest : List Octets} {l : Leg}
    (hleg : t.leg place part = .ok l) (hrest : ReachesIn t n l.place (l.ahead ++ rest) q) :
    ReachesIn t (l.links + n) place (part :: rest) q

/-- A part that is not followed if there is a link leads from `place` to `q`. -/
inductive Lands (t : FileTree) (place : Place) : Octets → Place → Prop
  | here (hplace : t.isDirectory place = true) : Lands t place here place
  | above (hplace : t.isDirectory place = true) : Lands t place above place.dropLast
  | name {part : Octets} {entry : TreeEntry} (hplace : t.isDirectory place = true)
    (hhere : part ≠ FileTree.here) (habove : part ≠ FileTree.above)
    (hlength : part.length ≤ maxNameLength) (hentry : t.get? (place ++ [part]) = some entry) :
    Lands t place part (place ++ [part])

variable {t : FileTree} {place d m q q' : Place} {part last : Octets} {init rest : List Octets}
  {l : Leg} {n links : Nat} {followLast : Bool}

theorem walk_nil (t : FileTree) (followLast : Bool) (links : Nat) (place : Place) :
    walk t followLast links place [] = .ok place := by
  cases links <;> rfl

theorem walk_part (t : FileTree) (followLast : Bool) (links : Nat) (place : Place) (part : Octets)
    (rest : List Octets) :
    walk t followLast links place (part :: rest)
      =
    if !t.isDirectory place then .error .notADirectory
    else if part = here then walk t followLast links place rest
    else if part = above then walk t followLast links place.dropLast rest
    else if maxNameLength < part.length then .error .nameTooLong
    else
      match t.get? (place ++ [part]) with
      | none => .error .missing
      | some ⟨.link target, _⟩ =>
        if rest.isEmpty && !followLast then .ok (place ++ [part])
        else
          match links with
          | 0 => .error .tooManyLinks
          | links + 1 =>
            walk t followLast links (if target.isAbsolute then [] else place) (parts target ++ rest)
      | some _ => walk t followLast links (place ++ [part]) rest := by
  cases links <;> rfl

theorem walk_cons (h : (rest.isEmpty && !followLast) = false) :
    walk t followLast links place (part :: rest)
      =
    match t.leg place part with
    | .error e => .error e
    | .ok l =>
      if links < l.links then .error .tooManyLinks
      else walk t followLast (links - l.links) l.place (l.ahead ++ rest) := by
  rw [walk_part, leg]
  by_cases hplace : (!t.isDirectory place) = true
  . rw [if_pos hplace, if_pos hplace]
  . rw [if_neg hplace, if_neg hplace]
    by_cases hhere : part = here
    . rw [if_pos hhere, if_pos hhere]
      simp
    . rw [if_neg hhere, if_neg hhere]
      by_cases habove : part = above
      . rw [if_pos habove, if_pos habove]
        simp
      . rw [if_neg habove, if_neg habove]
        by_cases hlength : maxNameLength < part.length
        . rw [if_pos hlength, if_pos hlength]
        . rw [if_neg hlength, if_neg hlength]
          cases t.get? (place ++ [part]) with
          | none => rfl
          | some entry =>
            rcases entry with ⟨node, _⟩
            cases node with
            | file => simp
            | directory => simp
            | link target =>
              simp only [h]
              cases links <;> simp

theorem ahead_of_leg (h : t.leg place part = .ok l) :
    (l.links = 0 ∧ l.ahead = []) ∨ l.links = 1 := by
  unfold leg at h
  split at h
  . cases h
  . split at h
    . cases h
      exact .inl ⟨rfl, rfl⟩
    . split at h
      . cases h
        exact .inl ⟨rfl, rfl⟩
      . split at h
        . cases h
        . split at h
          . cases h
          . cases h
            exact .inr rfl
          . cases h
            exact .inl ⟨rfl, rfl⟩

theorem leg_here (hplace : t.isDirectory place = true) : t.leg place here = .ok ⟨place, [], 0⟩ := by
  rw [leg, hplace, if_neg (by decide), if_pos rfl]

theorem leg_above (hplace : t.isDirectory place = true) :
    t.leg place above = .ok ⟨place.dropLast, [], 0⟩ := by
  rw [leg, hplace, if_neg (by decide), if_neg (by decide), if_pos rfl]

theorem leg_name {entry : TreeEntry} (hplace : t.isDirectory place = true) (hhere : part ≠ here)
    (habove : part ≠ above) (hlength : part.length ≤ maxNameLength)
    (hentry : t.get? (place ++ [part]) = some entry) :
    t.leg place part = .ok
      (match entry.node with
      | .link target => ⟨if target.isAbsolute then [] else place, parts target, 1⟩
      | _ => ⟨place ++ [part], [], 0⟩) := by
  rw [leg, hplace, if_neg (by decide), if_neg hhere, if_neg habove, if_neg (by omega), hentry]
  rcases entry with ⟨node, _⟩
  cases node <;> rfl

/-- A last name that is not followed leads to what it names, be it a link or not. -/
theorem walk_name (hplace : t.isDirectory place = true) (hhere : last ≠ here)
    (habove : last ≠ above) :
    walk t false links place [last]
      =
    if maxNameLength < last.length then .error .nameTooLong
    else (t.get? (place ++ [last])).elim (.error .missing) fun _ => .ok (place ++ [last]) := by
  rw [walk_part, hplace, if_neg (by decide), if_neg hhere, if_neg habove]
  split
  . rfl
  . cases t.get? (place ++ [last]) with
    | none => rfl
    | some entry =>
      rcases entry with ⟨node, _⟩
      cases node with
      | file => simp [walk_nil]
      | directory => simp [walk_nil]
      | link target => rfl

theorem lands_of_walk_singleton (h : walk t false links place [last] = .ok q) :
    t.Lands place last q := by
  by_cases hplace : t.isDirectory place = true
  . by_cases hhere : last = here
    . rw [walk_part, hplace, if_neg (by decide), if_pos hhere, walk_nil] at h
      cases h
      rw [hhere]
      exact .here hplace
    . by_cases habove : last = above
      . rw [walk_part, hplace, if_neg (by decide), if_neg hhere, if_pos habove, walk_nil] at h
        cases h
        rw [habove]
        exact .above hplace
      . rw [walk_name hplace hhere habove] at h
        by_cases hlength : maxNameLength < last.length
        . rw [if_pos hlength] at h
          cases h
        . rw [if_neg hlength] at h
          cases hentry : t.get? (place ++ [last]) with
          | none =>
            rw [hentry] at h
            cases h
          | some entry =>
            rw [hentry] at h
            cases h
            exact .name hplace hhere habove (by omega) hentry
  . rw [walk_part, if_pos (by simp [hplace])] at h
    cases h

/-- What a part leads to, be it over a link or not, is the same for a path that ends there. -/
theorem lands_of_leg (h : t.leg place part = .ok l) : ∃ q, t.Lands place part q := by
  unfold leg at h
  split at h
  . cases h
  . rename_i hplace
    rw [Bool.not_eq_true, Bool.not_eq_false'] at hplace
    split at h
    . rename_i hpart
      rw [hpart]
      exact ⟨place, .here hplace⟩
    . rename_i hhere
      split at h
      . rename_i hpart
        rw [hpart]
        exact ⟨place.dropLast, .above hplace⟩
      . rename_i habove
        split at h
        . cases h
        . rename_i hlength
          cases hentry : t.get? (place ++ [part]) with
          | none =>
            rw [hentry] at h
            cases h
          | some entry =>
            exact ⟨place ++ [part], .name hplace hhere habove (by omega) hentry⟩

theorem Lands.walk (h : t.Lands place last q) (links : Nat) :
    walk t false links place [last] = .ok q := by
  cases h with
  | here hplace => rw [walk_part, hplace, if_neg (by decide), if_pos rfl, walk_nil]
  | above hplace =>
    rw [walk_part, hplace, if_neg (by decide), if_neg (by decide), if_pos rfl, walk_nil]
  | name hplace hhere habove hlength hentry =>
    rw [walk_name hplace hhere habove, if_neg (by omega), hentry]
    rfl

/-- A path that is followed to its end is followed so at first, over no more links than allowed. -/
theorem reachesIn_of_walk (hrest : (rest.isEmpty && !followLast) = false) (links : Nat)
    (place : Place) (init : List Octets)
    (h : walk t followLast links place (init ++ rest) = .ok q) :
    ∃ n ≤ links, ∃ d, t.ReachesIn n place init d ∧
      walk t followLast (links - n) d rest = .ok q := by
  cases init with
  | nil => exact ⟨0, Nat.zero_le links, place, .arrived, h⟩
  | cons part init =>
    have hmore : ((init ++ rest).isEmpty && !followLast) = false := by
      cases init with
      | nil => exact hrest
      | cons _ _ => rfl
    rw [List.cons_append, walk_cons hmore] at h
    cases hleg : t.leg place part with
    | error e =>
      rw [hleg] at h
      cases h
    | ok l =>
      rw [hleg] at h
      dsimp only at h
      by_cases hlinks : links < l.links
      . rw [if_pos hlinks] at h
        cases h
      . rw [if_neg hlinks, ← List.append_assoc] at h
        obtain ⟨n, hn, d, hreaches, hwalk⟩ := reachesIn_of_walk hrest _ _ _ h
        rw [Nat.sub_sub] at hwalk
        exact ⟨l.links + n, by omega, d, .go hleg hreaches, hwalk⟩
termination_by (links, init.length)
decreasing_by
  rcases ahead_of_leg hleg with ⟨hzero, hahead⟩ | hone
  . rw [hzero, hahead]
    apply Prod.Lex.right
    simp [*]
  . apply Prod.Lex.left
    omega

namespace ReachesIn

/-- What was followed so far takes its links from those that may be followed. -/
theorem walk_append (h : t.ReachesIn n place init d) (hn : n ≤ links)
    (hrest : (rest.isEmpty && !followLast) = false) :
    walk t followLast links place (init ++ rest) = walk t followLast (links - n) d rest := by
  induction h generalizing links with
  | arrived => rfl
  | @go n place d part init l hleg _ ih =>
    have hmore : ((init ++ rest).isEmpty && !followLast) = false := by
      cases init with
      | nil => exact hrest
      | cons _ _ => rfl
    rw [List.cons_append, walk_cons hmore, hleg]
    dsimp only
    rw [if_neg (by omega), ← List.append_assoc, ih (by omega), Nat.sub_sub]

theorem walk (h : t.ReachesIn n place rest q) (hn : n ≤ links) :
    walk t true links place rest = .ok q := by
  have hwalk : FileTree.walk t true links place (rest ++ []) = _ := h.walk_append hn rfl
  rw [List.append_nil, walk_nil] at hwalk
  exact hwalk

theorem walk_last (h : t.ReachesIn n place init d) (hn : n ≤ links) (hlast : t.Lands d last q) :
    FileTree.walk t false links place (init ++ [last]) = .ok q := by
  rw [h.walk_append hn rfl]
  exact hlast.walk (links - n)

theorem append {m : Nat} (h : t.ReachesIn n place init d) (h' : t.ReachesIn m d rest q) :
    t.ReachesIn (n + m) place (init ++ rest) q := by
  induction h with
  | arrived =>
    rw [Nat.zero_add]
    exact h'
  | go hleg _ ih =>
    have hrest := ih h'
    rw [List.append_assoc] at hrest
    rw [Nat.add_assoc]
    exact .go hleg hrest

theorem split (h : t.ReachesIn n place (init ++ rest) q) :
    ∃ d m k, t.ReachesIn m place init d ∧ t.ReachesIn k d rest q ∧ n = m + k := by
  generalize hwhole : init ++ rest = whole at h
  induction h generalizing init with
  | arrived =>
    obtain ⟨rfl, rfl⟩ := List.append_eq_nil_iff.mp hwhole
    exact ⟨_, 0, 0, .arrived, .arrived, rfl⟩
  | @go n place q part rest' l hleg hrest ih =>
    cases init with
    | nil =>
      rw [List.nil_append] at hwhole
      rw [hwhole]
      exact ⟨_, 0, _, .arrived, .go hleg hrest, by omega⟩
    | cons part' init =>
      rw [List.cons_append] at hwhole
      cases hwhole
      obtain ⟨d, m, k, hinit, hrest', rfl⟩ := ih (List.append_assoc ..)
      exact ⟨d, l.links + m, k, .go hleg hinit, hrest', by omega⟩

theorem of_here (h : t.ReachesIn n place rest q) (hrest : ∀ part ∈ rest, part = here) :
    q = place ∧ n = 0 := by
  induction h with
  | arrived => exact ⟨rfl, rfl⟩
  | @go n place q part rest l hleg _ ih =>
    obtain ⟨rfl, hmore⟩ := List.forall_mem_cons.mp hrest
    obtain ⟨_, hlands⟩ := lands_of_leg hleg
    have hstay : l = ⟨place, [], 0⟩ := by
      have hplace : t.isDirectory place = true := by cases hlands <;> assumption
      rw [leg_here hplace] at hleg
      cases hleg
      rfl
    subst hstay
    obtain ⟨hq, hn⟩ := ih hmore
    exact ⟨hq, by rw [hn]⟩

end ReachesIn

theorem reaches_iff : t.Reaches place rest q ↔ ∃ n, t.ReachesIn n place rest q := by
  constructor
  . intro h
    induction h with
    | arrived => exact ⟨0, .arrived⟩
    | go hleg _ ih =>
      obtain ⟨n, hrest⟩ := ih
      exact ⟨_, .go hleg hrest⟩
  . rintro ⟨n, h⟩
    induction h with
    | arrived => exact .arrived
    | go hleg _ ih => exact .go hleg ih

theorem lands_of_walk (links : Nat) (place : Place) (init : List Octets)
    (h : walk t false links place (init ++ [last]) = .ok q) :
    ∃ d, t.Reaches place init d ∧ t.Lands d last q := by
  obtain ⟨n, _, d, hreaches, hwalk⟩ := reachesIn_of_walk rfl links place init h
  exact ⟨d, reaches_iff.mpr ⟨n, hreaches⟩, lands_of_walk_singleton hwalk⟩

namespace Reaches

theorem walk (h : t.Reaches place rest q) (links : Nat) :
    walk t true links place rest = .ok q ∨
      walk t true links place rest = .error .tooManyLinks := by
  induction h generalizing links with
  | arrived =>
    rw [walk_nil]
    exact .inl rfl
  | @go place q part rest l hleg _ ih =>
    rw [walk_cons (by simp), hleg]
    dsimp only
    by_cases hlinks : links < l.links
    . rw [if_pos hlinks]
      exact .inr rfl
    . rw [if_neg hlinks]
      apply ih

theorem append (h : t.Reaches place init m) (h' : t.Reaches m rest q) :
    t.Reaches place (init ++ rest) q := by
  obtain ⟨n, hinit⟩ := reaches_iff.mp h
  obtain ⟨k, hrest⟩ := reaches_iff.mp h'
  exact reaches_iff.mpr ⟨n + k, hinit.append hrest⟩

theorem split (h : t.Reaches place (init ++ rest) q) :
    ∃ m, t.Reaches place init m ∧ t.Reaches m rest q := by
  obtain ⟨n, hwhole⟩ := reaches_iff.mp h
  obtain ⟨m, j, k, hinit, hrest, _⟩ := hwhole.split
  exact ⟨m, reaches_iff.mpr ⟨j, hinit⟩, reaches_iff.mpr ⟨k, hrest⟩⟩

theorem unique (h : t.Reaches place rest q) (h' : t.Reaches place rest q') : q = q' := by
  induction h with
  | arrived =>
    cases h'
    rfl
  | go hleg _ ih =>
    cases h' with
    | go hleg' hrest' =>
      rw [hleg] at hleg'
      cases hleg'
      exact ih hrest'

theorem of_here (h : t.Reaches place rest q) (hrest : ∀ part ∈ rest, part = here) : q = place := by
  obtain ⟨n, hcounted⟩ := reaches_iff.mp h
  exact (hcounted.of_here hrest).1

end Reaches

end FileTree

end FreshIndex
