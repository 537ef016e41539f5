import FreshIndex.FileTree.Snapshot
import FreshIndex.Proofs.FileTree.Path
import FreshIndex.Proofs.FileTree.Walk
import FreshIndex.Proofs.Scene.Basic

/-!
This module contains what it is for the links from a path onwards to end, and the proof that in a
tree of files there is a file then: the file system gets to the same place, unless there are too
many links for it.
-/

namespace FreshIndex

open Text

namespace Snapshot

/-- The links from a path onwards, however many, end at a file that is none. -/
inductive Resolves (m : Snapshot) : FilePath → Prop
  | file {p : FilePath} {s : FileStat} (hstat : m.stat p = .ok s) (hfile : s.isLink = false) :
    Resolves m p
  | link {p target : FilePath} {s : FileStat} (hstat : m.stat p = .ok s) (hlink : s.isLink = true)
    (hread : m.readLink p = .ok target) (htarget : Resolves m (Checker.linkDestination p target)) :
    Resolves m p

theorem resolves_of_latestInChain {m : Snapshot} {start p : FilePath} {hops : Nat}
    {latest : Timestamp} (h : m.latestInChain start hops p = .ok latest) : m.Resolves p := by
  fun_induction latestInChain m start hops p generalizing latest with
  | case1 => cases h
  | case2 hops p s hstat hfile => exact .file hstat (by simpa using hfile)
  | case3 => cases h
  | case4 => cases h
  | case5 => cases h
  | case6 p s hstat hlink hops target hread later hlater ih =>
    exact .link hstat (by simpa using hlink) hread (ih hlater)

end Snapshot

/-- What a file system can be asked for: a path is not empty, and an octet of zero would end it. -/
structure FilePath.IsSpelled (p : FilePath) : Prop where
  nonempty : p.octets ≠ []
  noNul : (0 : UInt8) ∉ p.octets

namespace FileTree

variable {t : FileTree} {directory place d q : Place} {p target : FilePath} {followLast : Bool}
  {init : List Octets} {last : Octets} {entry : TreeEntry} {modified : Timestamp}
  {edits : DocumentUri → Bool}

/-- What a machine answers whose files form a tree, whatever the editor says. -/
def machine (t : FileTree) (directory : Place) (edits : DocumentUri → Bool) : Snapshot :=
  { t.snapshot directory [] with hasUnsavedEdits := edits }

def startOf (directory : Place) (p : FilePath) : Place :=
  if p.isAbsolute then [] else directory

def Holds (t : FileTree) (directory : Place) (p : FilePath) : Prop :=
  ∃ place entry, t.Reaches (startOf directory p) (parts p) place ∧ t.get? place = some entry

theorem resolve_of_isSpelled (hp : p.IsSpelled) (hlength : p.octets.length ≤ maxPathLength) :
    t.resolve directory followLast p
      = walk t followLast maxLinks (startOf directory p) (parts p) := by
  unfold resolve locate
  rw [if_neg (by omega), if_neg (by simp [hp.noNul]), if_neg (by simp [hp.nonempty])]
  rfl

theorem isSpelled_of_resolve (h : t.resolve directory followLast p = .ok place) :
    p.IsSpelled ∧ p.octets.length ≤ maxPathLength := by
  unfold resolve locate at h
  split at h
  . cases h
  . rename_i hlength
    split at h
    . cases h
    . rename_i hnul
      split at h
      . cases h
      . rename_i hempty
        simp only [List.contains_eq_mem, decide_eq_true_eq] at hnul
        refine ⟨⟨by simpa using hempty, hnul⟩, ?_⟩
        simpa [hnul] using hlength

theorem resolve_eq_walk (h : t.resolve directory followLast p = .ok place) (follow : Bool) :
    t.resolve directory follow p = walk t follow maxLinks (startOf directory p) (parts p) := by
  obtain ⟨hspelled, hlength⟩ := isSpelled_of_resolve h
  exact resolve_of_isSpelled hspelled hlength

theorem entryAt_eq_ok (h : t.entryAt directory followLast p = .ok entry) :
    ∃ place, t.resolve directory followLast p = .ok place ∧ t.get? place = some entry := by
  unfold entryAt at h
  cases hresolve : t.resolve directory followLast p with
  | error e =>
    rw [hresolve] at h
    cases h
  | ok place =>
    rw [hresolve] at h
    cases hentry : t.get? place with
    | none =>
      simp only [hentry] at h
      cases h
    | some entry' =>
      simp only [hentry] at h
      cases h
      exact ⟨place, rfl, hentry⟩

theorem entryAt_of_resolve (h : t.resolve directory followLast p = .ok place)
    (hentry : t.get? place = some entry) : t.entryAt directory followLast p = .ok entry := by
  unfold entryAt
  rw [h]
  simp only [hentry]

/-- There is a file, unless there are too many links on the way for the file system. -/
theorem pathExists_of_holds (h : t.Holds directory p)
    (hresolve : t.resolve directory followLast p = .ok place) :
    t.pathExists directory p = true ∨ t.resolve directory true p = .error .tooManyLinks := by
  obtain ⟨q, entry, hreaches, hentry⟩ := h
  unfold pathExists entryAt
  rw [resolve_eq_walk hresolve]
  rcases hreaches.walk maxLinks with hwalk | hwalk
  . left
    rw [hwalk]
    simp only [hentry]
    rfl
  . exact .inr hwalk

/-- A path leads to a file, or up to a link. -/
theorem holds_or_link (hresolve : t.resolve directory false p = .ok place)
    (hentry : t.get? place = some entry) :
    t.Holds directory p ∨
      ∃ target init last d, entry.node = .link target ∧ parts p = init ++ [last] ∧ last ≠ here ∧
        t.Reaches (startOf directory p) init d ∧
        t.leg d last = .ok ⟨startOf d target, parts target, 1⟩ := by
  have hwalk := hresolve
  rw [resolve_eq_walk hresolve] at hwalk
  rcases List.eq_nil_or_concat (parts p) with hnil | ⟨init, last, hconcat⟩
  . rw [hnil, walk_nil] at hwalk
    cases hwalk
    left
    refine ⟨_, entry, ?_, hentry⟩
    rw [hnil]
    exact .arrived
  . rw [List.concat_eq_append] at hconcat
    rw [hconcat] at hwalk
    obtain ⟨d, hreaches, hlands⟩ := lands_of_walk _ _ _ hwalk
    have harrives {l : Leg} (hleg : t.leg d last = .ok l) (hahead : l.ahead = [])
        (hplace : l.place = place) : t.Holds directory p := by
      refine ⟨place, entry, ?_, hentry⟩
      rw [hconcat]
      apply hreaches.append
      apply Reaches.go hleg
      rw [hahead, hplace]
      exact .arrived
    cases hlands with
    | here hd => exact .inl (harrives (leg_here hd) rfl rfl)
    | above hd => exact .inl (harrives (leg_above hd) rfl rfl)
    | name hd hhere habove hlength hentry' =>
      rw [hentry] at hentry'
      cases hentry'
      have hleg := leg_name hd hhere habove hlength hentry
      rcases entry with ⟨node, _⟩
      cases node with
      | file => exact .inl (harrives hleg rfl rfl)
      | directory => exact .inl (harrives hleg rfl rfl)
      | link target => exact .inr ⟨target, init, last, d, rfl, hconcat, hhere, hreaches, hleg⟩

/-- The file system follows a link to the place that the link's destination, as a path, leads to. -/
theorem reaches_of_linkDestination (hparts : parts p = init ++ [last]) (hlast : last ≠ here)
    (hinit : t.Reaches (startOf directory p) init d)
    (h : t.Reaches (startOf directory (Checker.linkDestination p target))
      (parts (Checker.linkDestination p target)) q) :
    t.Reaches (startOf d target) (parts target) q := by
  unfold Checker.linkDestination at h
  cases htarget : target.isAbsolute with
  | true =>
    rw [htarget, if_pos rfl] at h
    unfold startOf at h ⊢
    rw [htarget, if_pos rfl] at h ⊢
    exact h
  | false =>
    obtain ⟨parent, idle, hparent, habsolute, hsegments, hidle⟩ := parts_parent? hparts hlast
    obtain ⟨more, hjoin, hmore⟩ := parts_join (p := parent) htarget
    rw [htarget, if_neg (by decide), hparent] at h
    dsimp only at h
    have hstart : startOf directory (parent.join target) = startOf directory p := by
      unfold startOf
      rw [FilePath.isAbsolute_join htarget, habsolute]
    have hd : startOf d target = d := by
      unfold startOf
      rw [htarget, if_neg (by decide)]
    rw [hstart, hjoin] at h
    rw [hsegments] at hinit
    obtain ⟨m, hm, hrest⟩ := h.split
    obtain ⟨m', hm', hd'⟩ := hinit.split
    obtain ⟨z, hz, hq⟩ := hrest.split
    rw [hm'.unique hm] at hd'
    rw [hd, hd'.of_here hidle, hq.of_here hmore]
    exact hz

theorem stat_of_entryAt (h : t.entryAt directory false p = .ok entry) :
    (t.machine directory edits).stat p
      = .ok ⟨entry.modified, match entry.node with | .link _ => true | _ => false⟩ := by
  change (t.entryAt directory false p).map _ = _
  rw [h]
  rfl

theorem readLink_of_entryAt (h : t.entryAt directory false p = .ok ⟨.link target, modified⟩) :
    (t.machine directory edits).readLink p = .ok target := by
  change t.readLink directory p = _
  rw [readLink, h]

theorem stat_machine {s : FileStat} (h : (t.machine directory edits).stat p = .ok s) :
    ∃ place entry, t.entryAt directory false p = .ok entry ∧
      t.resolve directory false p = .ok place ∧ t.get? place = some entry ∧
      ∀ target, entry.node = .link target → s.isLink = true := by
  change (t.entryAt directory false p).map _ = _ at h
  cases hentryAt : t.entryAt directory false p with
  | error e =>
    rw [hentryAt] at h
    cases h
  | ok entry =>
    rw [hentryAt] at h
    obtain ⟨place, hresolve, hentry⟩ := entryAt_eq_ok hentryAt
    refine ⟨place, entry, rfl, hresolve, hentry, ?_⟩
    intro target hnode
    cases h
    dsimp only
    rw [hnode]

theorem readLink_machine {target : FilePath} (hentry : t.entryAt directory false p = .ok entry)
    (h : (t.machine directory edits).readLink p = .ok target) : entry.node = .link target := by
  change t.readLink directory p = _ at h
  rw [readLink, hentry] at h
  rcases entry with ⟨node, _⟩
  cases node with
  | file => cases h
  | directory => cases h
  | link target' =>
    cases h
    rfl

/-- There is a file at the end of a chain of links. -/
theorem holds_of_resolves (h : (t.machine directory edits).Resolves p) : t.Holds directory p := by
  induction h with
  | file hstat hfile =>
    obtain ⟨place, entry, _, hresolve, hentry, hislink⟩ := stat_machine hstat
    rcases holds_or_link hresolve hentry with hholds | ⟨target, _, _, _, hnode, _⟩
    . exact hholds
    . rw [hislink target hnode] at hfile
      cases hfile
  | link hstat _ hread _ ih =>
    obtain ⟨place, entry, hentryAt, hresolve, hentry, _⟩ := stat_machine hstat
    rcases holds_or_link hresolve hentry with
      hholds | ⟨target, init, last, d, hnode, hparts, hlast, hinit, hleg⟩
    . exact hholds
    . rw [readLink_machine hentryAt hread] at hnode
      cases hnode
      obtain ⟨q, entry', hdestination, hentry'⟩ := ih
      refine ⟨q, entry', ?_, hentry'⟩
      rw [hparts]
      apply hinit.append
      apply Reaches.go hleg
      rw [List.append_nil]
      exact reaches_of_linkDestination hparts hlast hinit hdestination

theorem pathExists_of_resolves (h : (t.machine directory edits).Resolves p) :
    t.pathExists directory p = true ∨ t.resolve directory true p = .error .tooManyLinks := by
  have hholds := holds_of_resolves h
  cases h with
  | file hstat _ =>
    obtain ⟨_, _, _, hresolve, _⟩ := stat_machine hstat
    exact pathExists_of_holds hholds hresolve
  | link hstat _ _ _ =>
    obtain ⟨_, _, _, hresolve, _⟩ := stat_machine hstat
    exact pathExists_of_holds hholds hresolve

end FileTree

end FreshIndex
