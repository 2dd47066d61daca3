import DeclGen.Proofs.Files.Beside

/-!
Collections as sets of paths. What is collected is what the arguments ask for without what the
excluding patterns stand for, in strictly ascending order. So neither the order of the arguments nor
their number counts, more arguments collect no less, and more excludes no more.
-/

namespace DeclGen.Workspace

variable {w : Workspace} {recursive : Bool} {argument path : String} {place : Location}

/-- A path leads from the folder at a place down to a file that has the extension of schema files: a
file in the folder itself or, in a recursive search, at any depth below it. -/
def LeadsDown (w : Workspace) (recursive : Bool) (place : Location) (argument path : String) :
    Prop :=
  ∃ folders front bytes, (recursive = false → folders = []) ∧
    w.tree.node? (place ++ folders ++ [front ++ schemaSuffix]) = some (.file bytes) ∧
    path = Path.join argument ("/".intercalate (folders ++ [front ++ schemaSuffix]))

/-- What an argument asks for. In a folder these are schema files, and any other argument is a
pattern. -/
def AsksFor (w : Workspace) (recursive : Bool) (argument path : String) : Prop :=
  match w.find argument with
  | .ok (place, .folder) => w.LeadsDown recursive place argument path
  | _ => path ∈ w.glob argument recursive

theorem asksFor_of_folder (h : w.find argument = .ok (place, .folder)) :
    w.AsksFor recursive argument path ↔ w.LeadsDown recursive place argument path := by
  rw [AsksFor, h]

theorem asksFor_of_not_folder (h : w.isFolder argument = false) :
    w.AsksFor recursive argument path ↔ path ∈ w.glob argument recursive := by
  unfold AsksFor
  split
  · next place hfind => simp [isFolder, hfind] at h
  · exact Iff.rfl

theorem mem_schemasBelow_iff (hw : w.tree.WellFormed)
    (h : w.find argument = .ok (place, .folder)) :
    path ∈ w.schemasBelow argument ↔ w.LeadsDown true place argument path := by
  rw [mem_schemasBelow]
  constructor
  · rintro ⟨names, bytes, hmem, hschema, rfl⟩
    obtain ⟨hne, hnode⟩ := (mem_below_iff_node? hw h).mp hmem
    obtain ⟨folders, name, rfl⟩ := (List.eq_nil_or_concat names).resolve_left hne
    rw [List.concat_eq_append] at hnode hschema ⊢
    rw [List.getLastD_concat] at hschema
    obtain ⟨front, rfl⟩ := isSchemaName_iff.mp hschema
    exact ⟨folders, front, bytes, by simp, by rwa [List.append_assoc], rfl⟩
  · rintro ⟨folders, front, bytes, _, hnode, rfl⟩
    rw [List.append_assoc] at hnode
    refine ⟨folders ++ [front ++ schemaSuffix], bytes,
      (mem_below_iff_node? hw h).mpr ⟨by simp, hnode⟩, ?_, rfl⟩
    rw [List.getLastD_concat]
    exact isSchemaName_iff.mpr ⟨front, rfl⟩

theorem mem_schemasIn_iff (hw : w.tree.WellFormed)
    (h : w.find argument = .ok (place, .folder)) :
    path ∈ w.schemasIn argument ↔ w.LeadsDown false place argument path := by
  rw [mem_schemasIn]
  constructor
  · rintro ⟨name, bytes, hmem, hschema, rfl⟩
    obtain ⟨_, hnode⟩ := (mem_below_iff_node? hw h).mp (mem_children.mp hmem)
    obtain ⟨front, rfl⟩ := isSchemaName_iff.mp hschema
    refine ⟨[], front, bytes, fun _ => rfl, by rwa [List.append_nil], ?_⟩
    rw [List.nil_append, String.intercalate_singleton]
  · rintro ⟨folders, front, bytes, hdirect, hnode, rfl⟩
    obtain rfl := hdirect rfl
    rw [List.append_nil] at hnode
    refine ⟨front ++ schemaSuffix, bytes,
      mem_children.mpr ((mem_below_iff_node? hw h).mpr ⟨by simp, hnode⟩),
      isSchemaName_iff.mpr ⟨front, rfl⟩, ?_⟩
    rw [List.nil_append, String.intercalate_singleton]

theorem mem_selected (hw : w.tree.WellFormed) :
    path ∈ w.selected recursive argument ↔ w.AsksFor recursive argument path := by
  by_cases hfolder : w.isFolder argument = true
  · obtain ⟨place, hfind⟩ := isFolder_iff.mp hfolder
    rw [selected, if_pos hfolder, asksFor_of_folder hfind]
    cases recursive with
    | true => exact mem_schemasBelow_iff hw hfind
    | false => exact mem_schemasIn_iff hw hfind
  · rw [Bool.not_eq_true] at hfolder
    rw [selected, hfolder, asksFor_of_not_folder hfolder]
    simp

/-- A recursive search finds no less in a folder. -/
theorem AsksFor.at_any_depth (hfolder : w.isFolder argument = true)
    (h : w.AsksFor false argument path) : w.AsksFor true argument path := by
  obtain ⟨place, hfind⟩ := isFolder_iff.mp hfolder
  rw [asksFor_of_folder hfind] at h ⊢
  obtain ⟨folders, front, bytes, _, hnode, rfl⟩ := h
  exact ⟨folders, front, bytes, by simp, hnode, rfl⟩

section

variable {paths paths' excludes excludes' : List String} {root : String}

theorem mem_excluded : path ∈ w.excluded excludes recursive root ↔
    ∃ exclude ∈ excludes, path ∈ w.glob (Path.join root exclude) recursive :=
  List.mem_flatMap

theorem mem_collect_iff_asksFor (hw : w.tree.WellFormed) :
    path ∈ w.collect paths excludes recursive root ↔
      (∃ argument ∈ paths, w.AsksFor recursive (Path.join root argument) path) ∧
        ¬ ∃ exclude ∈ excludes, path ∈ w.glob (Path.join root exclude) recursive := by
  rw [mem_collect, mem_excluded]
  simp only [mem_selected hw]

/-- More arguments collect no less, and more excludes no more. -/
theorem collect_subset (hpaths : paths ⊆ paths') (hexcludes : excludes' ⊆ excludes) :
    w.collect paths excludes recursive root ⊆ w.collect paths' excludes' recursive root := by
  intro path hpath
  obtain ⟨⟨argument, hargument, hasked⟩, hkept⟩ := mem_collect.mp hpath
  refine mem_collect.mpr ⟨⟨argument, hpaths hargument, hasked⟩, fun hexcluded => hkept ?_⟩
  obtain ⟨exclude, hexclude, hmem⟩ := mem_excluded.mp hexcluded
  exact mem_excluded.mpr ⟨exclude, hexcludes hexclude, hmem⟩

/-- Neither the order nor the repetition of arguments and excludes counts. -/
theorem collect_eq_of_same (hpaths : ∀ argument, argument ∈ paths ↔ argument ∈ paths')
    (hexcludes : ∀ exclude, exclude ∈ excludes ↔ exclude ∈ excludes') :
    w.collect paths excludes recursive root = w.collect paths' excludes' recursive root := by
  refine List.Pairwise.eq_of_mem_iff (pairwise_sortedPaths _) (pairwise_sortedPaths _)
    fun path => ⟨fun h => ?_, fun h => ?_⟩
  · exact collect_subset (fun p => (hpaths p).mp) (fun p => (hexcludes p).mpr) h
  · exact collect_subset (fun p => (hpaths p).mpr) (fun p => (hexcludes p).mp) h

/-- Out of folders a recursive search collects no less. -/
theorem collect_subset_recursive (hw : w.tree.WellFormed)
    (hfolders : ∀ argument ∈ paths, w.isFolder (Path.join root argument) = true) :
    w.collect paths [] false root ⊆ w.collect paths [] true root := by
  intro path hpath
  obtain ⟨⟨argument, hargument, hasked⟩, _⟩ := (mem_collect_iff_asksFor hw).mp hpath
  exact (mem_collect_iff_asksFor hw).mpr
    ⟨⟨argument, hargument, hasked.at_any_depth (hfolders argument hargument)⟩, by simp⟩

end

/-- A collection ascends strictly, and holds what its arguments ask for without what its excludes
stand for. So it is the same for the same arguments and excludes in another order or number, it only
grows with the arguments and only shrinks with the excludes, and out of folders a recursive search
collects no less. -/
theorem collect_asked_without_excluded (hw : w.tree.WellFormed) (root : String) :
    (∀ recursive paths excludes,
      (w.collect paths excludes recursive root).Pairwise (· < ·) ∧
      ∀ path, path ∈ w.collect paths excludes recursive root ↔
        (∃ argument ∈ paths, w.AsksFor recursive (Path.join root argument) path) ∧
          ¬ ∃ exclude ∈ excludes, path ∈ w.glob (Path.join root exclude) recursive) ∧
    (∀ recursive paths paths' excludes excludes',
      (∀ argument, argument ∈ paths ↔ argument ∈ paths') →
      (∀ exclude, exclude ∈ excludes ↔ exclude ∈ excludes') →
        w.collect paths excludes recursive root = w.collect paths' excludes' recursive root) ∧
    (∀ recursive paths paths' excludes excludes', paths ⊆ paths' → excludes' ⊆ excludes →
      w.collect paths excludes recursive root ⊆ w.collect paths' excludes' recursive root) ∧
    (∀ paths, (∀ argument ∈ paths, w.isFolder (Path.join root argument) = true) →
      w.collect paths [] false root ⊆ w.collect paths [] true root) :=
  ⟨fun _ _ _ => ⟨pairwise_sortedPaths _, fun _ => mem_collect_iff_asksFor hw⟩,
    fun _ _ _ _ _ => collect_eq_of_same, fun _ _ _ _ _ => collect_subset,
    fun _ => collect_subset_recursive hw⟩

/-- Schema files in a folder, in a hidden one below it and in one that is named as a schema file. -/
def nested : Workspace :=
  ⟨⟨[(["d"], .folder), (["d", "b.xml"], .file []), (["d", ".h"], .folder),
    (["d", ".h", "a.xml"], .file []), (["d", "c.xml"], .folder),
    (["d", "c.xml", "e.xml"], .file [])]⟩, []⟩

theorem wellFormed_nested : nested.tree.WellFormed := by
  decide

theorem find_nested : nested.find (Path.join "/" "d") = .ok (["d"], .folder) := by
  decide +kernel

/-- The file in the hidden folder is collected, and the excluded one is not. -/
theorem nested_collected : nested.tree.WellFormed ∧
    "/d/.h/a.xml" ∈ nested.collect ["d"] ["d/b.xml"] true "/" ∧
    "/d/b.xml" ∉ nested.collect ["d"] ["d/b.xml"] true "/" ∧
    nested.collect ["d", "d/c.xml", "d"] [] true "/" = nested.collect ["d/c.xml", "d"] [] true "/" ∧
    nested.collect ["d"] ["d/b.xml", "d/*"] true "/" ⊆
      nested.collect ["d/*.xml", "d"] ["d/*"] true "/" ∧
    nested.collect ["d"] [] false "/" ⊆ nested.collect ["d"] [] true "/" := by
  obtain ⟨hmem, hsame, hmono, hdeep⟩ := collect_asked_without_excluded wellFormed_nested "/"
  have hfolder : ∀ argument ∈ ["d"], nested.isFolder (Path.join "/" argument) = true := by
    intro argument hargument
    rw [List.mem_singleton.mp hargument]
    exact isFolder_iff.mpr ⟨_, find_nested⟩
  refine ⟨wellFormed_nested, ?_, ?_, ?_, ?_, hdeep ["d"] hfolder⟩
  · refine ((hmem true ["d"] ["d/b.xml"]).2 _).mpr ⟨⟨"d", by simp, ?_⟩, by decide +kernel⟩
    exact (asksFor_of_folder find_nested).mpr
      ⟨[".h"], "a", [], by simp, by decide +kernel, by decide +kernel⟩
  · intro hcollected
    exact (((hmem true ["d"] ["d/b.xml"]).2 _).mp hcollected).2 (by decide +kernel)
  · exact hsame true _ _ [] [] (by simp) (by simp)
  · exact hmono true _ _ _ _ (by simp) (by simp)

end DeclGen.Workspace
