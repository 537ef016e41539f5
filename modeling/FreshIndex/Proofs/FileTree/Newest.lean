import Mathlib.Control.Monad.Basic
import FreshIndex.Proofs.FileTree.Chain
import FreshIndex.Proofs.Scene.Examined

/-!
This module contains the proof that a checker, going from link to link, comes to the very file that
the file system finds at a path: to follow a link, and to go to its destination as a path of its
own, leads to the same place, and the second goes over fewer links.
-/

namespace FreshIndex

open Text

namespace FilePath.IsSpelled

variable {p target : FilePath}

theorem linkDestination (hp : p.IsSpelled) (htarget : target.IsSpelled) :
    (Checker.linkDestination p target).IsSpelled := by
  unfold Checker.linkDestination
  split
  . exact htarget
  . split
    . rename_i directory hparent
      refine ⟨?_, ?_⟩
      . have hne := htarget.nonempty
        unfold join
        split
        . exact hne
        . split <;> simp [hne]
      . intro h
        rcases mem_or_of_mem_join h with hslash | h | h
        . cases hslash
        . rcases mem_or_of_parent? hparent h with hslash | h
          . cases hslash
          . exact hp.noNul h
        . exact htarget.noNul h
    . exact htarget

end FilePath.IsSpelled

namespace FileTree

variable {t : FileTree} {directory place d q : Place} {p target : FilePath} {init : List Octets}
  {last part : Octets} {entry : TreeEntry} {l : Leg} {n : Nat} {edits : DocumentUri → Bool}

/-- All that is in the tree is in a directory, and its links have targets that can be asked for. -/
structure IsSound (t : FileTree) : Prop where
  inDirectory : ∀ place entry, t.get? place = some entry → t.isDirectory place.dropLast = true
  spelled : ∀ place target modified, t.get? place = some ⟨.link target, modified⟩ →
    target.IsSpelled

theorem mem_or_of_get? (h : t.get? place = some entry) :
    (place, entry) ∈ t.entries ∨ place = [] ∧ entry = ⟨.directory, t.rootModified⟩ := by
  unfold get? at h
  split at h
  . rename_i hroot
    cases h
    exact .inr ⟨List.isEmpty_iff.mp hroot, rfl⟩
  . obtain ⟨before, after, hentries, _⟩ := List.lookup_eq_some_iff.mp h
    rw [hentries]
    exact .inl List.mem_append_cons_self

theorem isSound_of_entries
    (hdirectory : ∀ e ∈ t.entries, t.isDirectory e.1.dropLast = true)
    (htarget : ∀ e ∈ t.entries, ∀ target, e.2.node = .link target → target.IsSpelled) :
    t.IsSound where
  inDirectory place entry h := by
    rcases mem_or_of_get? h with hmem | ⟨rfl, _⟩
    . exact hdirectory _ hmem
    . rfl
  spelled place target modified h := by
    rcases mem_or_of_get? h with hmem | ⟨_, hroot⟩
    . exact htarget _ hmem target rfl
    . cases hroot

theorem get?_of_isDirectory (h : t.isDirectory place = true) :
    ∃ modified, t.get? place = some ⟨.directory, modified⟩ := by
  unfold isDirectory at h
  cases hentry : t.get? place with
  | none =>
    rw [hentry] at h
    cases h
  | some entry =>
    rcases entry with ⟨node, modified⟩
    rw [hentry, Option.any_some, beq_iff_eq] at h
    dsimp only at h
    rw [h]
    exact ⟨modified, rfl⟩

/-- From a path over one link the rest of the way is that of the link's destination. -/
theorem reachesIn_linkDestination {m k : Nat} (htarget : target.IsSpelled)
    (hparts : parts p = init ++ [last]) (hlast : last ≠ here)
    (hinit : t.ReachesIn m (startOf directory p) init d)
    (hrest : t.ReachesIn k (startOf d target) (parts target) q) :
    ∃ n ≤ m + k, t.ReachesIn n (startOf directory (Checker.linkDestination p target))
      (parts (Checker.linkDestination p target)) q := by
  unfold Checker.linkDestination
  cases habsolute : target.isAbsolute with
  | true =>
    rw [if_pos rfl]
    unfold startOf at hrest ⊢
    rw [habsolute, if_pos rfl] at hrest ⊢
    exact ⟨k, by omega, hrest⟩
  | false =>
    obtain ⟨parent, idle, hparent, hsame, hsegments, hidle⟩ := parts_parent? hparts hlast
    have hstart : startOf directory (parent.join target) = startOf directory p := by
      unfold startOf
      rw [FilePath.isAbsolute_join habsolute, hsame]
    have hd : startOf d target = d := by
      unfold startOf
      rw [habsolute, if_neg (by decide)]
    rw [if_neg (by decide), hparent]
    dsimp only
    rw [hstart, parts_join_of_ne_nil habsolute htarget.nonempty]
    rw [hsegments] at hinit
    obtain ⟨d', m', m'', hdirectory, hstay, rfl⟩ := hinit.split
    obtain ⟨rfl, rfl⟩ := hstay.of_here hidle
    rw [hd] at hrest
    exact ⟨m' + k, by omega, hdirectory.append hrest⟩

theorem get?_ne_link (h : t.isDirectory place = true) (target : FilePath) (modified : Timestamp) :
    t.get? place ≠ some ⟨.link target, modified⟩ := by
  obtain ⟨modified', hentry⟩ := get?_of_isDirectory h
  rw [hentry]
  nofun

/-- A part leads to what is there, if that is no link, and otherwise over the link. -/
theorem lands_or_link (ht : t.IsSound) (h : t.leg place part = .ok l) :
    (t.Lands place part l.place ∧ l.ahead = [] ∧
      ∀ target modified, t.get? l.place ≠ some ⟨.link target, modified⟩) ∨
      ∃ target modified, part ≠ here ∧ t.Lands place part (place ++ [part]) ∧
        t.get? (place ++ [part]) = some ⟨.link target, modified⟩ ∧
        l = ⟨startOf place target, parts target, 1⟩ := by
  obtain ⟨q, hlands⟩ := lands_of_leg h
  cases hlands with
  | here hplace =>
    rw [leg_here hplace] at h
    cases h
    exact .inl ⟨.here hplace, rfl, get?_ne_link hplace⟩
  | above hplace =>
    rw [leg_above hplace] at h
    cases h
    obtain ⟨modified, hentry⟩ := get?_of_isDirectory hplace
    exact .inl ⟨.above hplace, rfl, get?_ne_link (ht.inDirectory place _ hentry)⟩
  | @name _ entry hplace hhere habove hlength hentry =>
    rw [leg_name hplace hhere habove hlength hentry] at h
    have hlands := Lands.name hplace hhere habove hlength hentry
    rcases entry with ⟨node, modified⟩
    cases node with
    | file =>
      cases h
      exact .inl ⟨hlands, rfl, by simp [hentry]⟩
    | directory =>
      cases h
      exact .inl ⟨hlands, rfl, by simp [hentry]⟩
    | link target =>
      cases h
      exact .inr ⟨target, modified, hhere, hlands, hentry, rfl⟩

/--
Where a path leads: to what is there, if that is no link, and otherwise to a link, from which fewer
links remain.
-/
theorem file_or_link (ht : t.IsSound) (hp : p.IsSpelled)
    (hlength : p.octets.length ≤ maxPathLength)
    (h : t.ReachesIn n (startOf directory p) (parts p) q) (hn : n ≤ maxLinks) :
    (t.resolve directory false p = .ok q ∧
      ∀ target modified, t.get? q ≠ some ⟨.link target, modified⟩) ∨
      ∃ target modified m, t.entryAt directory false p = .ok ⟨.link target, modified⟩ ∧
        target.IsSpelled ∧ m < n ∧
        t.ReachesIn m (startOf directory (Checker.linkDestination p target))
          (parts (Checker.linkDestination p target)) q := by
  have hresolve : t.resolve directory false p = _ := resolve_of_isSpelled hp hlength
  rcases List.eq_nil_or_concat (parts p) with hnil | ⟨init, last, hconcat⟩
  . left
    have hstart : startOf directory p = [] := by
      unfold startOf
      rw [if_pos (isAbsolute_of_parts hnil hp.nonempty)]
    rw [hnil, hstart] at h hresolve
    cases h
    refine ⟨?_, get?_ne_link rfl⟩
    rw [hresolve, walk_nil]
  . rw [List.concat_eq_append] at hconcat
    rw [hconcat] at h hresolve
    obtain ⟨d, m, k, hinit, hlast, rfl⟩ := h.split
    have hwalk {place : Place} (hlands : t.Lands d last place) :
        t.resolve directory false p = .ok place := by
      rw [hresolve]
      exact hinit.walk_last (by omega) hlands
    cases hlast with
    | go hleg hrest =>
      rw [List.append_nil] at hrest
      rcases lands_or_link ht hleg with
        ⟨hlands, hahead, hfile⟩ | ⟨target, modified, hhere, hlands, hentry, rfl⟩
      . rw [hahead] at hrest
        cases hrest
        exact .inl ⟨hwalk hlands, hfile⟩
      . have htarget := ht.spelled _ _ _ hentry
        obtain ⟨n, hn, hdestination⟩ := reachesIn_linkDestination htarget hconcat hhere hinit hrest
        refine .inr ⟨target, modified, n, entryAt_of_resolve (hwalk hlands) hentry, htarget, ?_,
          hdestination⟩
        dsimp only
        omega

/--
What is found in the chain of links from a path on: it ends at the file that the path leads to, and
its latest modification is that of one of its links or of the file.
-/
theorem latestInChain_of_reachesIn {n : Nat} {p : FilePath} (ht : t.IsSound) (start : FilePath)
    (hops : Nat) (hp : p.IsSpelled) (h : t.ReachesIn n (startOf directory p) (parts p) q)
    (hentry : t.get? q = some entry) (hn : n ≤ hops) (hhops : hops ≤ maxLinks)
    (hlength : ∀ path ∈ (t.machine directory edits).pathsInChain hops p,
      path.octets.length ≤ maxPathLength) :
    ∃ links last latest,
      (t.machine directory edits).latestInChain start hops p = .ok latest ∧
      (t.machine directory edits).pathsInChain hops p = links ++ [last] ∧
      t.resolve directory false last = .ok q ∧ entry.modified ≤ latest ∧
      (∀ link ∈ links, ∃ target modified,
        t.entryAt directory false link = .ok ⟨.link target, modified⟩ ∧ modified ≤ latest) ∧
      ∃ path ∈ links ++ [last], ∃ node,
        t.entryAt directory false path = .ok ⟨node, latest⟩ := by
  have hlengthp : p.octets.length ≤ maxPathLength := by
    apply hlength
    unfold Snapshot.pathsInChain
    exact List.mem_cons_self
  rcases file_or_link ht hp hlengthp h (by omega) with
    ⟨hresolve, hfile⟩ | ⟨target, modified, m, hlink, htarget, hfewer, hrest⟩
  . have hentryAt := entryAt_of_resolve hresolve hentry
    have hstat : (t.machine directory edits).stat p = .ok ⟨entry.modified, false⟩ := by
      rw [stat_of_entryAt hentryAt]
      split
      . rename_i target hnode
        cases hfile target entry.modified (by rw [hentry, ← hnode])
      . rfl
    exact ⟨[], p, entry.modified, Snapshot.latestInChain_of_file hstat rfl,
      Snapshot.pathsInChain_of_file hstat rfl, hresolve, Int.le_refl _, List.forall_mem_nil _, p,
      List.mem_singleton_self p, entry.node, hentryAt⟩
  . obtain ⟨hops, rfl⟩ : ∃ k, hops = k + 1 := Nat.exists_eq_succ_of_ne_zero (by omega)
    have hstat : (t.machine directory edits).stat p = .ok ⟨modified, true⟩ := stat_of_entryAt hlink
    have hread : (t.machine directory edits).readLink p = .ok target := readLink_of_entryAt hlink
    have hpaths : (t.machine directory edits).pathsInChain (hops + 1) p = _ :=
      Snapshot.pathsInChain_of_link hstat rfl hread
    have hlengths : ∀ path ∈ (t.machine directory edits).pathsInChain hops
        (Checker.linkDestination p target), path.octets.length ≤ maxPathLength := by
      intro path hpath
      apply hlength
      rw [hpaths]
      exact List.mem_cons_of_mem p hpath
    obtain ⟨links, last, later, hlater, hchain, hlast, hfile, hlinks, path, hpath, node, hnode⟩ :=
      latestInChain_of_reachesIn ht start hops (hp.linkDestination htarget) hrest hentry (by omega)
        (by omega) hlengths
    refine ⟨p :: links, last, max modified later,
      Snapshot.latestInChain_of_link hstat rfl hread hlater, ?_, hlast,
      Timestamp.le_max_of_le_right hfile, ?_, ?_⟩
    . rw [hpaths, hchain, List.cons_append]
    . intro link hmem
      rcases List.mem_cons.mp hmem with rfl | hmem
      . exact ⟨target, modified, hlink, Timestamp.le_max_left⟩
      . obtain ⟨target', modified', hlink', hle⟩ := hlinks link hmem
        exact ⟨target', modified', hlink', Timestamp.le_max_of_le_right hle⟩
    . rcases Timestamp.max_eq_or modified later with hmax | hmax
      . rw [hmax]
        exact ⟨p, List.mem_cons_self, .link target, hlink⟩
      . rw [hmax]
        exact ⟨path, List.mem_cons_of_mem p hpath, node, hnode⟩
termination_by hops

variable {σ : Type}

/--
If there is a file at a path for the file system, a checker finds its date. The last path that it
examines is one of that very file and no link to another, and the date is the latest of the file's
and of those of the links before it.
-/
theorem modificationTime_of_pathExists (ht : t.IsSound) (directory : Place)
    (edits : DocumentUri → Bool) (p : FilePath)
    (hexists : t.pathExists directory p.normalize = true)
    (hlength : ∀ path ∈ (t.machine directory edits).pathsInChain Checker.maxHops p.normalize,
      path.octets.length ≤ maxPathLength) :
    ∃ links last latest file entry,
      (∀ c : Checking σ, c.checker.Accurate (t.machine directory edits) → ∃ c',
        Checker.modificationTime (.ofSnapshot fun _ => t.machine directory edits) (.ofPath p) c
          = (.ok (.date latest), c') ∧
        (c.checker.modificationTimes.get? (.ofPath p) = none →
          c'.world.examined = c.world.examined ++ (links ++ [last]))) ∧
      t.resolve directory true p.normalize = .ok file ∧
      t.resolve directory false last = .ok file ∧
      t.get? file = some entry ∧ entry.modified ≤ latest ∧
      (∀ link ∈ links, ∃ target modified,
        t.entryAt directory false link = .ok ⟨.link target, modified⟩ ∧ modified ≤ latest) ∧
      ∃ path ∈ links ++ [last], ∃ node,
        t.entryAt directory false path = .ok ⟨node, latest⟩ := by
  unfold pathExists at hexists
  cases hentryAt : t.entryAt directory true p.normalize with
  | error e =>
    rw [hentryAt] at hexists
    cases hexists
  | ok entry =>
    obtain ⟨file, hresolve, hentry⟩ := entryAt_eq_ok hentryAt
    obtain ⟨hspelled, _⟩ := isSpelled_of_resolve hresolve
    have hwalk := hresolve
    rw [resolve_eq_walk hresolve, ← List.append_nil (parts _)] at hwalk
    obtain ⟨n, hn, d, hreaches, hd⟩ := reachesIn_of_walk rfl _ _ _ hwalk
    rw [walk_nil] at hd
    cases hd
    obtain ⟨links, last, latest, hlatest, hpaths, hlast, hfile, hlinks, hexact⟩ :=
      latestInChain_of_reachesIn ht p.normalize Checker.maxHops hspelled hreaches hentry hn
        (Nat.le_refl _) hlength
    refine ⟨links, last, latest, file, entry, ?_, hresolve, hlast, hentry, hfile, hlinks, hexact⟩
    have hpath : (DocumentUri.ofPath p).filePath? = some p.normalize := rfl
    have hdate : (t.machine directory edits).modificationTime (.ofPath p) = .ok (.date latest) := by
      unfold Snapshot.modificationTime
      simp only [hpath, hlatest]
    intro c hc
    refine ⟨_, Prod.ext ?_ rfl, ?_⟩
    . rw [Checker.modificationTime_of_accurate hc, hdate]
    . intro hunknown
      rw [← hpaths]
      exact (Checker.examines_modificationTime _ hpath c ⟨hunknown, rfl⟩).2

/-- A link over `..`, a link to a directory on the way of it, and a link that starts at the root. -/
def crossroads : FileTree :=
  ⟨⟨60⟩, [([octets "a"], ⟨.directory, ⟨1⟩⟩),
    ([octets "a", octets "l"], ⟨.link (.ofText "../b/./m"), ⟨5⟩⟩),
    ([octets "b"], ⟨.link (.ofText "c/d/"), ⟨30⟩⟩), ([octets "c"], ⟨.directory, ⟨1⟩⟩),
    ([octets "c", octets "d"], ⟨.directory, ⟨1⟩⟩),
    ([octets "c", octets "d", octets "m"], ⟨.link (.ofText "/e/../f"), ⟨9⟩⟩),
    ([octets "e"], ⟨.link (.ofText "c/d"), ⟨40⟩⟩), ([octets "c", octets "f"], ⟨.file, ⟨7⟩⟩),
    ([octets "f"], ⟨.file, ⟨50⟩⟩)]⟩

theorem isSound_crossroads : crossroads.IsSound := by
  apply isSound_of_entries
  . decide
  . unfold crossroads
    simp only [List.forall_mem_cons]
    refine ⟨nofun, ?_, ?_, nofun, nofun, ?_, ?_, nofun, nofun, nofun⟩
    all_goals
      rintro target h
      cases h
      exact ⟨by decide, by decide⟩

/-- The date is that of the second link, which is newer than the first one and than the file. -/
theorem modificationTime_crossroads :
    crossroads.IsSound ∧
      crossroads.pathExists [] (FilePath.ofText "/a/./l").normalize = true ∧
      (∀ path ∈ (crossroads.machine [] fun _ => false).pathsInChain Checker.maxHops
        (FilePath.ofText "/a/./l").normalize, path.octets.length ≤ maxPathLength) ∧
      ∃ last c',
        Checker.modificationTime (.ofSnapshot fun _ => crossroads.machine [] fun _ => false)
            (.ofPath (.ofText "/a/./l")) ⟨.ofLevel .modifiedFiles, ⟨(), []⟩⟩
          = (.ok (.date ⟨9⟩), c') ∧
        c'.world.examined.getLast? = some last ∧
        crossroads.resolve [] false last = .ok [octets "c", octets "f"] := by
  have hexists : crossroads.pathExists [] (FilePath.ofText "/a/./l").normalize = true := by
    decide +kernel
  have hlength : ∀ path ∈ (crossroads.machine [] fun _ => false).pathsInChain Checker.maxHops
      (FilePath.ofText "/a/./l").normalize, path.octets.length ≤ maxPathLength := by
    have hpaths : (crossroads.machine [] fun _ => false).pathsInChain Checker.maxHops
        (FilePath.ofText "/a/./l").normalize
          = [.ofText "/a/l", .ofText "/a/../b/./m", .ofText "/e/../f"] := by
      decide +kernel
    rw [hpaths]
    decide
  obtain ⟨links, last, latest, file, entry, hrun, hfile, hlast, _⟩ :=
    modificationTime_of_pathExists isSound_crossroads [] (fun _ => false) (.ofText "/a/./l")
      hexists hlength
  obtain ⟨c', hc', hexamined⟩ :=
    hrun ⟨.ofLevel .modifiedFiles, ⟨(), []⟩⟩ (Checker.accurate_ofLevel _ _)
  have hplace : crossroads.resolve [] true (FilePath.ofText "/a/./l").normalize
      = .ok [octets "c", octets "f"] := by
    decide +kernel
  have hdate : (Checker.modificationTime
      (.ofSnapshot fun _ => crossroads.machine [] fun _ => false) (.ofPath (.ofText "/a/./l"))
        ⟨.ofLevel .modifiedFiles, ⟨(), []⟩⟩).1 = .ok (.date ⟨9⟩) := by
    decide +kernel
  rw [hc'] at hdate
  cases hdate
  rw [hplace] at hfile
  cases hfile
  refine ⟨isSound_crossroads, hexists, hlength, last, c', hc', ?_, hlast⟩
  rw [hexamined rfl, ← List.append_assoc, List.getLast?_concat]

end FileTree

end FreshIndex
