import DeclGen.Files.Tree
import DeclGen.Proofs.Files.Path

/-!
Well-formed trees and their growth. In a well-formed tree every node stands in a folder, so names
lead from a folder to all that lies below it. While a tree only grows, they keep leading there.
-/

namespace DeclGen

namespace FileTree

/-- Every place is listed once, has a name that is possible, and stands in a folder. -/
structure WellFormed (t : FileTree) : Prop where
  distinct : (t.entries.map (·.1)).Nodup
  proper : ∀ e ∈ t.entries, ∀ name ∈ e.1, IsProperName name
  rooted : ∀ e ∈ t.entries, e.1 ≠ [] ∧ t.node? e.1.dropLast = some .folder

instance (t : FileTree) : Decidable t.WellFormed :=
  decidable_of_iff ((t.entries.map (·.1)).Nodup ∧
      (∀ e ∈ t.entries, ∀ name ∈ e.1, IsProperName name) ∧
      ∀ e ∈ t.entries, e.1 ≠ [] ∧ t.node? e.1.dropLast = some .folder)
    ⟨fun h => ⟨h.1, h.2.1, h.2.2⟩, fun h => ⟨h.distinct, h.proper, h.rooted⟩⟩

variable {t : FileTree} {place : Location} {node : FileNode}

theorem node?_root (t : FileTree) : t.node? [] = some .folder := by
  rw [node?, if_pos rfl]

private theorem lookup_of_mem {entries : List (Location × FileNode)}
    (hd : (entries.map (·.1)).Nodup) (hmem : (place, node) ∈ entries) :
    entries.lookup place = some node := by
  induction entries with
  | nil => exact absurd hmem List.not_mem_nil
  | cons e rest ih =>
    rw [List.map_cons, List.nodup_cons] at hd
    rcases List.mem_cons.mp hmem with rfl | hrest
    · rw [List.lookup_cons, beq_self_eq_true]
    · have hne : place ≠ e.1 := by
        rintro rfl
        exact hd.1 (List.mem_map.mpr ⟨_, hrest, rfl⟩)
      rw [List.lookup_cons, beq_false_of_ne hne]
      exact ih hd.2 hrest

/-- In a well-formed tree the node listed for a place is the one that stands there. -/
theorem WellFormed.node?_of_mem (h : t.WellFormed) (hmem : (place, node) ∈ t.entries) :
    t.node? place = some node := by
  rw [node?, if_neg (h.rooted _ hmem).1]
  exact lookup_of_mem h.distinct hmem

theorem mem_of_node? (hne : place ≠ []) (h : t.node? place = some node) :
    (place, node) ∈ t.entries := by
  rw [node?, if_neg hne, List.lookup_eq_some_iff] at h
  obtain ⟨before, behind, hentries, _⟩ := h
  rw [hentries]
  exact List.mem_append_right _ List.mem_cons_self

theorem WellFormed.node?_parent {name : String} (h : t.WellFormed)
    (hnode : t.node? (place ++ [name]) = some node) : t.node? place = some .folder := by
  have hroot := (h.rooted _ (mem_of_node? (by simp) hnode)).2
  rwa [List.dropLast_concat] at hroot

/-- All that is above a node is folders. -/
theorem WellFormed.node?_above {names : List String} (h : t.WellFormed) (hne : names ≠ [])
    (hnode : t.node? (place ++ names) = some node) : t.node? place = some .folder := by
  induction names generalizing place with
  | nil => exact absurd rfl hne
  | cons name rest ih =>
    rw [List.append_cons] at hnode
    cases rest with
    | nil => exact h.node?_parent (by simpa using hnode)
    | cons next rest => exact h.node?_parent (ih (by simp) hnode)

theorem follow_append (t : FileTree) (place : Location) (xs ys : List String) :
    t.follow place (xs ++ ys) = t.follow place xs >>= fun reached => t.follow reached ys := by
  induction xs generalizing place with
  | nil => rfl
  | cons x xs ih =>
    simp only [List.cons_append, follow, ih]
    split
    · rfl
    · rfl
    · split
      · rfl
      · split <;> rfl

theorem follow_proper {name : String} (hfolder : t.node? place = some .folder)
    (hname : IsProperName name) (rest : List String) :
    t.follow place (name :: rest) = t.follow (place ++ [name]) rest := by
  simp only [follow, hfolder, hname.2.2.1, hname.2.2.2, ↓reduceIte]

/-- Names lead on from folders only. -/
theorem folder_of_follow_cons {name : String} {rest : List String} {reached : Location}
    (h : t.follow place (name :: rest) = .ok reached) : t.node? place = some .folder := by
  unfold follow at h
  split at h
  · cases h
  · cases h
  · next hnode => exact hnode

/-- Proper names lead straight down. -/
theorem eq_append_of_follow {names : List String} {reached : Location}
    (hnames : ∀ name ∈ names, IsProperName name) (h : t.follow place names = .ok reached) :
    reached = place ++ names := by
  induction names generalizing place with
  | nil =>
    cases h
    exact (List.append_nil _).symm
  | cons name rest ih =>
    rw [follow_proper (folder_of_follow_cons h) (hnames name List.mem_cons_self)] at h
    rw [ih (fun n hn => hnames n (List.mem_cons_of_mem _ hn)) h, ← List.append_cons]

/-- Proper names lead down to what stands below a place. -/
theorem WellFormed.follow_eq {names : List String} (h : t.WellFormed)
    (hnames : ∀ name ∈ names, IsProperName name)
    (hnode : t.node? (place ++ names) = some node) :
    t.follow place names = .ok (place ++ names) := by
  induction names generalizing place with
  | nil => rw [follow, List.append_nil]
  | cons name rest ih =>
    have hfolder := h.node?_above (List.cons_ne_nil name rest) hnode
    rw [List.append_cons] at hnode
    rw [follow_proper hfolder (hnames name List.mem_cons_self),
      ih (fun next hnext => hnames next (List.mem_cons_of_mem _ hnext)) hnode, ← List.append_cons]

/-- Names lead from a folder to a folder, or to a name in one. -/
theorem WellFormed.folder_of_follow {names : List String} {reached : Location}
    (h : t.WellFormed) (hplace : t.node? place = some .folder)
    (hnames : ∀ name ∈ names, name ≠ "" ∧ '/' ∉ name.toList)
    (hfollow : t.follow place names = .ok reached) :
    t.node? reached = some .folder ∨ ∃ above name,
      reached = above ++ [name] ∧ IsProperName name ∧ t.node? above = some .folder := by
  induction names generalizing place with
  | nil =>
    cases hfollow
    exact .inl hplace
  | cons name rest ih =>
    have hrest : ∀ n ∈ rest, n ≠ "" ∧ '/' ∉ n.toList :=
      fun n hn => hnames n (List.mem_cons_of_mem _ hn)
    simp only [follow, hplace] at hfollow
    split at hfollow
    · exact ih hplace hrest hfollow
    · next hdot =>
      split at hfollow
      · refine ih ?_ hrest hfollow
        by_cases hroot : place = []
        · rw [hroot]
          exact node?_root t
        · exact (h.rooted _ (mem_of_node? hroot hplace)).2
      · next hup =>
        have hname : IsProperName name :=
          ⟨(hnames name List.mem_cons_self).1, (hnames name List.mem_cons_self).2, hdot, hup⟩
        cases rest with
        | nil =>
          cases hfollow
          exact .inr ⟨place, name, rfl, hname, hplace⟩
        | cons next rest => exact ih (folder_of_follow_cons hfollow) hrest hfollow

/-- What is listed below a place is listed in the tree. -/
theorem mem_below {names : List String} :
    (names, node) ∈ t.below place ↔ names ≠ [] ∧ (place ++ names, node) ∈ t.entries := by
  rw [below, List.mem_filterMap]
  constructor
  · rintro ⟨⟨p, n⟩, hmem, hp⟩
    obtain ⟨hcond, hrest⟩ := Option.ite_none_right_eq_some.mp hp
    rw [Bool.and_eq_true, List.isPrefixOf_iff_prefix, decide_eq_true_iff] at hcond
    obtain ⟨⟨rest, rfl⟩, hlength⟩ := hcond
    rw [List.drop_left] at hrest
    cases hrest
    refine ⟨?_, hmem⟩
    rintro rfl
    simp at hlength
  · rintro ⟨hne, hmem⟩
    refine ⟨_, hmem, ?_⟩
    have hlength := List.length_pos_iff.mpr hne
    simp [hlength]

theorem WellFormed.node?_of_mem_below {names : List String} (h : t.WellFormed)
    (hmem : (names, node) ∈ t.below place) : t.node? (place ++ names) = some node :=
  h.node?_of_mem (mem_below.mp hmem).2

theorem WellFormed.proper_of_mem_below {names : List String} (h : t.WellFormed)
    (hmem : (names, node) ∈ t.below place) : ∀ name ∈ names, IsProperName name :=
  fun name hname => h.proper _ (mem_below.mp hmem).2 name (List.mem_append_right _ hname)

/-- A place that is listed stays where it is in the list, and any other is added behind. -/
theorem map_fst_putEntry (place : Location) (node : FileNode)
    (entries : List (Location × FileNode)) :
    (putEntry place node entries).map (·.1) =
      if place ∈ entries.map (·.1) then entries.map (·.1) else entries.map (·.1) ++ [place] := by
  induction entries with
  | nil => rfl
  | cons e rest ih =>
    unfold putEntry
    by_cases hplace : e.1 = place
    · simp [hplace]
    · simp only [hplace, ↓reduceIte, List.map_cons, ih, List.mem_cons, Ne.symm hplace, false_or]
      split <;> rfl

theorem mem_places_put {other : Location} :
    other ∈ (t.put place node).entries.map (·.1) ↔
      other = place ∨ other ∈ t.entries.map (·.1) := by
  rw [put, map_fst_putEntry]
  split
  · next h =>
    constructor
    · exact .inr
    · rintro (rfl | hmem)
      · exact h
      · exact hmem
  · rw [List.mem_append, List.mem_singleton, or_comm]

theorem node?_put_self (t : FileTree) (node : FileNode) (h : place ≠ []) :
    (t.put place node).node? place = some node := by
  rw [node?_put t place node h, if_pos rfl]

/-- Where a node stands, another takes its place in the list. -/
theorem places_put_of_node? {new : FileNode} (hne : place ≠ []) (h : t.node? place = some node) :
    (t.put place new).entries.map (·.1) = t.entries.map (·.1) := by
  rw [put, map_fst_putEntry, if_pos (List.mem_map_of_mem (mem_of_node? hne h))]

/-- A new node keeps a tree well-formed if it stands in a folder and replaces none by a file. -/
theorem WellFormed.put {above : Location} {name : String} (h : t.WellFormed)
    (habove : t.node? above = some .folder) (hname : IsProperName name)
    (hkept : t.node? (above ++ [name]) = some .folder → node = .folder) :
    (t.put (above ++ [name]) node).WellFormed := by
  have hproper : ∀ n ∈ above ++ [name], IsProperName n := by
    intro n hn
    rcases List.mem_append.mp hn with hmem | hlast
    · exact h.proper _ (mem_of_node? (List.ne_nil_of_mem hmem) habove) n hmem
    · rwa [List.mem_singleton.mp hlast]
  have hfolder : ∀ other, t.node? other = some .folder →
      (t.put (above ++ [name]) node).node? other = some .folder := by
    intro other hother
    rw [node?_put t other node (by simp)]
    split
    · next hsame =>
      subst hsame
      rw [hkept hother]
    · exact hother
  refine ⟨?_, fun e he => ?_, fun e he => ?_⟩
  · rw [FileTree.put, map_fst_putEntry]
    split
    · exact h.distinct
    · next hnew => exact List.nodup_append.mpr ⟨h.distinct, by simp, by
        rintro p hp q hq rfl
        exact hnew (List.mem_singleton.mp hq ▸ hp)⟩
  · rcases mem_places_put.mp (List.mem_map_of_mem he) with hnew | hold
    · rw [hnew]
      exact hproper
    · obtain ⟨old, hmem, hplace⟩ := List.mem_map.mp hold
      rw [← hplace]
      exact h.proper old hmem
  · rcases mem_places_put.mp (List.mem_map_of_mem he) with hnew | hold
    · rw [hnew, List.dropLast_concat]
      exact ⟨by simp, hfolder above habove⟩
    · obtain ⟨old, hmem, hplace⟩ := List.mem_map.mp hold
      obtain ⟨hne, hroot⟩ := h.rooted old hmem
      rw [← hplace]
      exact ⟨hne, hfolder _ hroot⟩

/-- Places and nodes tell a tree in which no place is listed twice. -/
theorem WellFormed.eq_of_node? {t' : FileTree} (h : t.WellFormed)
    (hplaces : t'.entries.map (·.1) = t.entries.map (·.1))
    (hnode : ∀ place, t'.node? place = t.node? place) : t' = t := by
  suffices hentries : t'.entries = t.entries by
    cases t
    cases t'
    cases hentries
    rfl
  have hlength : t'.entries.length = t.entries.length := by
    simpa using congrArg List.length hplaces
  refine List.ext_getElem hlength fun i hi' hi => ?_
  have hplace : t'.entries[i].1 = t.entries[i].1 := by
    simpa [hi, hi'] using congrArg (·[i]?) hplaces
  have hmem : (t.entries[i].1, t.entries[i].2) ∈ t.entries := List.getElem_mem hi
  have hmem' : (t.entries[i].1, t'.entries[i].2) ∈ t'.entries := by
    rw [← hplace]
    exact List.getElem_mem hi'
  have hlater : t'.node? t.entries[i].1 = some t'.entries[i].2 := by
    rw [node?, if_neg (h.rooted _ hmem).1]
    exact lookup_of_mem (hplaces ▸ h.distinct) hmem'
  rw [hnode, h.node?_of_mem hmem] at hlater
  exact Prod.ext hplace (Option.some.inj hlater).symm

/-- A later state of a tree: folders stay, and the files that change hold written bytes. -/
structure Grown (written : List UInt8 → Prop) (t t' : FileTree) : Prop where
  folder : ∀ {place}, t.node? place = some .folder → t'.node? place = some .folder
  file : ∀ {place bytes}, t.node? place = some (.file bytes) →
    t'.node? place = some (.file bytes) ∨ ∃ new, written new ∧ t'.node? place = some (.file new)

namespace Grown

variable {written : List UInt8 → Prop} {t' t'' : FileTree}

theorem refl (t : FileTree) : Grown written t t := ⟨id, .inl⟩

theorem trans (h : Grown written t t') (h' : Grown written t' t'') : Grown written t t'' := by
  refine ⟨fun hp => h'.folder (h.folder hp), fun hp => ?_⟩
  rcases h.file hp with hsame | ⟨new, hnew, hp'⟩
  · exact h'.file hsame
  · rcases h'.file hp' with hsame | hchanged
    · exact .inr ⟨new, hnew, hsame⟩
    · exact .inr hchanged

/-- A new folder where nothing stood. -/
theorem put_folder (h : t.node? place = none) : Grown written t (t.put place .folder) := by
  have hne : place ≠ [] := by
    rintro rfl
    rw [node?_root] at h
    cases h
  have hother : ∀ other, t.node? other ≠ none →
      (t.put place .folder).node? other = t.node? other := by
    intro other hsome
    rw [node?_put t other .folder hne, if_neg]
    rintro rfl
    exact hsome h
  refine ⟨fun hp => ?_, fun hp => .inl ?_⟩
  · rw [hother _ (by simp [hp]), hp]
  · rw [hother _ (by simp [hp]), hp]

/-- Written bytes where no folder stood. -/
theorem put_file {bytes : List UInt8} (h : t.node? place ≠ some .folder) (hbytes : written bytes) :
    Grown written t (t.put place (.file bytes)) := by
  have hne : place ≠ [] := by
    rintro rfl
    exact h (node?_root t)
  refine ⟨fun {other} hp => ?_, fun {other old} hp => ?_⟩
  · rw [node?_put t other _ hne, if_neg, hp]
    rintro rfl
    exact h hp
  · rw [node?_put t other _ hne]
    split
    · exact .inr ⟨bytes, hbytes, rfl⟩
    · exact .inl hp

theorem exists_node? (h : Grown written t t') (hnode : t.node? place = some node) :
    ∃ later, t'.node? place = some later ∧ (node = .folder → later = .folder) := by
  cases node with
  | folder => exact ⟨.folder, h.folder hnode, id⟩
  | file bytes =>
    rcases h.file hnode with hsame | ⟨new, _, hnew⟩
    · exact ⟨_, hsame, nofun⟩
    · exact ⟨_, hnew, nofun⟩

/-- Names lead where they led before. -/
theorem follow_eq {start : Location} {names : List String} (h : Grown written t t')
    (hfollow : t.follow start names = .ok place) : t'.follow start names = .ok place := by
  induction names generalizing start with
  | nil => exact hfollow
  | cons name rest ih =>
    cases hnode : t.node? start with
    | none => simp [follow, hnode] at hfollow
    | some node =>
      cases node with
      | file bytes => simp [follow, hnode] at hfollow
      | folder =>
        simp only [follow, hnode] at hfollow
        simp only [follow, h.folder hnode]
        split
        · next hname => exact ih (by simpa [hname] using hfollow)
        · next hname =>
          rw [if_neg hname] at hfollow
          split
          · next hup => exact ih (by simpa [hup] using hfollow)
          · next hup => exact ih (by simpa [hup] using hfollow)

end Grown

end FileTree

end DeclGen
