import Mathlib.Data.List.TakeWhile
import DeclGen.Files.Collection
import DeclGen.Proofs.Files.Workspace

/-!
Collected paths lead to something. A search joins paths from the names that it has seen in the tree,
so whatever arguments it is given, each of its results is present.
-/

namespace DeclGen

private theorem searchNames_ne_nil {names : List String} (h : names ≠ []) :
    searchNames names ≠ [] := by
  induction names with
  | nil => exact absurd rfl h
  | cons name rest ih =>
    cases rest with
    | nil => simp [searchNames]
    | cons next rest =>
      rw [searchNames]
      · split
        · exact ih (by simp)
        · simp
      · simp

theorem mem_of_mem_searchNames {name : String} {names : List String}
    (h : name ∈ searchNames names) : name ∈ names := by
  fun_induction searchNames names with
  | case1 => exact h
  | case2 => exact h
  | case3 rest _ ih => exact List.mem_cons_of_mem _ (ih h)
  | case4 first rest _ _ ih =>
    rcases List.mem_cons.mp h with rfl | hrest
    · exact List.mem_cons_self
    · exact List.mem_cons_of_mem _ (ih hrest)

/-- A pattern with a wildcard has names to look for. -/
theorem Glob.names_ne_nil {pattern : String} (h : hasWildcard pattern = true) :
    (Glob.ofPattern pattern).names ≠ [] := by
  obtain ⟨c, hc, hwild⟩ := List.any_eq_true.mp h
  have hslash : c ≠ '/' := by
    rintro rfl
    exact absurd hwild (by decide)
  obtain ⟨part, hpart, hmem⟩ := Path.exists_mem_parts hc hslash
  have hname : hasWildcard (String.ofList part) = true := by
    rw [hasWildcard, String.toList_ofList]
    exact List.any_eq_true.mpr ⟨c, hmem, hwild⟩
  apply searchNames_ne_nil
  intro hnone
  have hall := List.dropWhile_eq_nil_iff.mp hnone _ (List.mem_map.mpr ⟨part, hpart, rfl⟩)
  simp [hname] at hall

/-- An absolute pattern is searched from a folder that its path tells. -/
theorem Glob.base_ne_empty {pattern : String} (h : Path.isAbsolute pattern = true) :
    (Glob.ofPattern pattern).base ≠ "" := by
  cases hcs : pattern.toList with
  | nil => simp [Path.isAbsolute, hcs] at h
  | cons c cs =>
    obtain rfl : c = '/' := by simpa [Path.isAbsolute, hcs] using h
    have hempty : hasWildcard "" = false := by decide
    have hparts : (Path.parts pattern.toList).map String.ofList =
        "" :: (Path.parts cs).map String.ofList := by
      rw [hcs]
      rfl
    simp only [Glob.ofPattern, hparts, List.takeWhile_cons, hempty, Bool.not_false, ↓reduceIte,
      List.flatMap_cons]
    intro hnone
    have hchars := congrArg String.toList hnone
    rw [String.toList_ofList, String.toList_empty] at hchars
    exact absurd hchars (Path.trimSlashes_ne_nil (by simp))

theorem listedFolder_of_ne {folder : String} (h : folder ≠ "") : listedFolder folder = folder :=
  if_neg h

theorem Glob.noSlash_of_mem_names {pattern : String} :
    ∀ name ∈ (Glob.ofPattern pattern).names, '/' ∉ name.toList := by
  intro name hname
  have hmem := (List.dropWhile_suffix _).mem (mem_of_mem_searchNames hname)
  obtain ⟨part, hpart, rfl⟩ := List.mem_map.mp hmem
  simpa using Path.noSlash_of_mem_parts hpart

namespace Workspace

variable {w : Workspace} {folder path : String} {node : FileNode}

theorem mem_below {names : List String} : (names, node) ∈ w.below folder ↔
    ∃ place, w.find folder = .ok (place, .folder) ∧ (names, node) ∈ w.tree.below place := by
  unfold below
  split
  · next place hfind =>
    simp [hfind]
  · next hno =>
    constructor
    · intro h
      exact absurd h List.not_mem_nil
    · rintro ⟨place, hfind, _⟩
      exact absurd hfind (hno place)

/-- What stands below a folder is listed there by the names that lead to it. -/
theorem mem_below_iff_node? {names : List String} {place : Location} (hw : w.tree.WellFormed)
    (h : w.find folder = .ok (place, .folder)) :
    (names, node) ∈ w.below folder ↔ names ≠ [] ∧ w.tree.node? (place ++ names) = some node := by
  rw [mem_below, h]
  simp only [Except.ok.injEq, Prod.mk.injEq, and_true, exists_eq_left', FileTree.mem_below]
  refine and_congr_right fun hne => ⟨hw.node?_of_mem, ?_⟩
  exact FileTree.mem_of_node? (by simp [hne])

theorem mem_children {name : String} :
    (name, node) ∈ w.children folder ↔ ([name], node) ∈ w.below folder := by
  rw [children, List.mem_filterMap]
  constructor
  · rintro ⟨⟨names, n⟩, hmem, h⟩
    split at h
    · next heq =>
      cases heq
      cases h
      exact hmem
    · cases h
  · intro hmem
    exact ⟨_, hmem, rfl⟩

theorem proper_of_mem_below {names : List String} (hw : w.tree.WellFormed)
    (hmem : (names, node) ∈ w.below folder) : ∀ name ∈ names, IsProperName name := by
  obtain ⟨place, _, hlisted⟩ := mem_below.mp hmem
  exact hw.proper_of_mem_below hlisted

theorem isPresent_of_mem_below {names : List String} (hw : w.tree.WellFormed)
    (hmem : (names, node) ∈ w.below folder) :
    w.isPresent (Path.join folder ("/".intercalate names)) = true := by
  obtain ⟨place, hfolder, hbelow⟩ := mem_below.mp hmem
  exact isPresent_iff.mpr ⟨_, _, find_join_of_mem_below hw hfolder hbelow⟩

theorem isPresent_of_mem_children {name : String} (hw : w.tree.WellFormed)
    (hmem : (name, node) ∈ w.children folder) : w.isPresent (Path.join folder name) = true := by
  have h := isPresent_of_mem_below hw (mem_children.mp hmem)
  rwa [String.intercalate_singleton] at h

/-- What a search lists for a folder is found by its path from there. -/
theorem isPresent_of_mem_listed {names : List String} (hw : w.tree.WellFormed)
    (hmem : (names, node) ∈ w.below (listedFolder folder)) :
    w.isPresent (Path.join folder ("/".intercalate names)) = true := by
  by_cases hfolder : folder = ""
  · subst hfolder
    obtain ⟨place, hhome, hbelow⟩ := mem_below.mp hmem
    rw [Path.empty_join]
    exact isPresent_iff.mpr ⟨_, _, find_of_mem_below_home hw hhome hbelow⟩
  · rw [listedFolder_of_ne hfolder] at hmem
    exact isPresent_of_mem_below hw hmem

theorem isPresent_join_empty (h : w.isFolder folder = true) :
    w.isPresent (Path.join folder "") = true := by
  obtain ⟨place, hfind⟩ := isFolder_iff.mp h
  exact isPresent_iff.mpr ⟨_, _, find_join_empty hfind⟩

theorem mem_matchingNames {pattern name : String} {foldersOnly : Bool} :
    name ∈ w.matchingNames folder pattern foldersOnly ↔
      ∃ node, (name, node) ∈ w.children (listedFolder folder) ∧
        isWanted foldersOnly node = true ∧ (isHidden pattern || !isHidden name) = true ∧
          nameMatches pattern name = true := by
  simp only [matchingNames, List.mem_map, List.mem_filter, Bool.and_eq_true]
  constructor
  · rintro ⟨⟨found, node⟩, ⟨hmem, ⟨hwanted, hhidden⟩, hmatches⟩, rfl⟩
    exact ⟨node, hmem, hwanted, hhidden, hmatches⟩
  · rintro ⟨node, hmem, hwanted, hhidden, hmatches⟩
    exact ⟨(name, node), ⟨hmem, ⟨hwanted, hhidden⟩, hmatches⟩, rfl⟩

theorem mem_deepNames {foldersOnly : Bool} : path ∈ w.deepNames folder foldersOnly ↔
    w.isFolder (listedFolder folder) = true ∧ (path = "" ∨
      ∃ names node, (names, node) ∈ w.below (listedFolder folder) ∧
        isWanted foldersOnly node = true ∧ names.all (!isHidden ·) = true ∧
          path = "/".intercalate names) := by
  unfold deepNames
  by_cases hfolder : w.isFolder (listedFolder folder) = true
  · simp only [hfolder, ↓reduceIte, List.mem_cons, List.mem_map, List.mem_filter,
      Bool.and_eq_true, true_and]
    refine or_congr_right ⟨?_, ?_⟩
    · rintro ⟨⟨names, node⟩, ⟨hmem, hwanted, hshown⟩, rfl⟩
      exact ⟨names, node, hmem, hwanted, hshown, rfl⟩
    · rintro ⟨names, node, hmem, hwanted, hshown, rfl⟩
      exact ⟨(names, node), ⟨hmem, hwanted, hshown⟩, rfl⟩
  · simp [hfolder]

variable {recursive foldersOnly : Bool} {name : String}

/-- What one name of a pattern stands for, by the kind of the name. -/
theorem mem_searchName : path ∈ w.searchName recursive foldersOnly folder name ↔
    if recursive && name == deepName then path ∈ w.deepNames folder foldersOnly
    else if hasWildcard name then path ∈ w.matchingNames folder name foldersOnly
    else if name = "" then path = "" ∧ w.isFolder folder = true
    else path = name ∧ w.isPresent (Path.join folder name) = true := by
  unfold searchName
  split
  · exact Iff.rfl
  · split
    · exact Iff.rfl
    · split
      · by_cases hfolder : w.isFolder folder = true <;> simp [hfolder]
      · by_cases hpresent : w.isPresent (Path.join folder name) = true <;> simp [hpresent]

theorem isPresent_of_mem_searchName (hw : w.tree.WellFormed)
    (h : path ∈ w.searchName recursive foldersOnly folder name)
    (hne : Path.join folder path ≠ "") : w.isPresent (Path.join folder path) = true := by
  rw [mem_searchName] at h
  split_ifs at h with hdeep hwild hempty
  · obtain ⟨hfolder, rfl | ⟨names, node, hmem, _, _, rfl⟩⟩ := mem_deepNames.mp h
    · have hsome : folder ≠ "" := by
        rintro rfl
        exact hne rfl
      rw [listedFolder_of_ne hsome] at hfolder
      exact isPresent_join_empty hfolder
    · exact isPresent_of_mem_listed hw hmem
  · obtain ⟨node, hmem, _⟩ := mem_matchingNames.mp h
    have hlisted := isPresent_of_mem_listed hw (mem_children.mp hmem)
    rwa [String.intercalate_singleton] at hlisted
  · obtain ⟨rfl, hfolder⟩ := h
    exact isPresent_join_empty hfolder
  · obtain ⟨rfl, hpresent⟩ := h
    exact hpresent

theorem isPresent_of_mem_search {folders names : List String} (hw : w.tree.WellFormed)
    (hsome : names ≠ []) (h : path ∈ w.search recursive folders names) (hne : path ≠ "") :
    w.isPresent path = true := by
  induction names generalizing folders with
  | nil => exact absurd rfl hsome
  | cons name rest ih =>
    rw [search] at h
    cases rest with
    | nil =>
      obtain ⟨folder, _, hfound⟩ := List.mem_flatMap.mp h
      obtain ⟨found, hmem, rfl⟩ := List.mem_map.mp hfound
      exact isPresent_of_mem_searchName hw hmem hne
    | cons next rest => exact ih (List.cons_ne_nil next rest) h

/-- What a pattern stands for, by whether it holds wildcards. -/
theorem mem_glob {pattern : String} : path ∈ w.glob pattern recursive ↔
    if hasWildcard pattern then
      path ∈ w.search recursive [(Glob.ofPattern pattern).base] (Glob.ofPattern pattern).names ∧
        path ≠ ""
    else path = pattern ∧ w.isPresent pattern = true := by
  unfold glob
  split
  · rw [List.mem_filter, decide_eq_true_iff]
  · by_cases hpresent : w.isPresent pattern = true <;> simp [hpresent]

theorem isPresent_of_mem_glob {pattern : String} (hw : w.tree.WellFormed)
    (h : path ∈ w.glob pattern recursive) : w.isPresent path = true := by
  rw [mem_glob] at h
  split_ifs at h with hwild
  · exact isPresent_of_mem_search hw (Glob.names_ne_nil hwild) h.1 h.2
  · obtain ⟨rfl, hpresent⟩ := h
    exact hpresent

theorem mem_schemasIn : path ∈ w.schemasIn folder ↔ ∃ name bytes,
    (name, .file bytes) ∈ w.children folder ∧ isSchemaName name = true ∧
      path = Path.join folder name := by
  rw [schemasIn, List.mem_filterMap]
  constructor
  · rintro ⟨⟨name, _ | bytes⟩, hmem, h⟩
    · cases h
    · obtain ⟨hname, hpath⟩ := Option.ite_none_right_eq_some.mp h
      exact ⟨name, bytes, hmem, hname, (Option.some.inj hpath).symm⟩
  · rintro ⟨name, bytes, hmem, hname, rfl⟩
    exact ⟨_, hmem, if_pos hname⟩

theorem mem_schemasBelow : path ∈ w.schemasBelow folder ↔ ∃ names bytes,
    (names, .file bytes) ∈ w.below folder ∧ isSchemaName (names.getLastD "") = true ∧
      path = Path.join folder ("/".intercalate names) := by
  rw [schemasBelow, List.mem_filterMap]
  constructor
  · rintro ⟨⟨names, _ | bytes⟩, hmem, h⟩
    · cases h
    · obtain ⟨hname, hpath⟩ := Option.ite_none_right_eq_some.mp h
      exact ⟨names, bytes, hmem, hname, (Option.some.inj hpath).symm⟩
  · rintro ⟨names, bytes, hmem, hname, rfl⟩
    exact ⟨_, hmem, if_pos hname⟩

theorem isPresent_of_mem_selected {argument : String}
    (hw : w.tree.WellFormed) (h : path ∈ w.selected recursive argument) :
    w.isPresent path = true := by
  unfold selected at h
  split at h
  · split at h
    · obtain ⟨names, bytes, hmem, _, rfl⟩ := mem_schemasBelow.mp h
      exact isPresent_of_mem_below hw hmem
    · obtain ⟨name, bytes, hmem, _, rfl⟩ := mem_schemasIn.mp h
      exact isPresent_of_mem_children hw hmem
  · exact isPresent_of_mem_glob hw h

/-- The paths that the excluding patterns stand for. -/
def excluded (w : Workspace) (excludes : List String) (recursive : Bool) (root : String) :
    List String :=
  excludes.flatMap fun path => w.glob (Path.join root path) recursive

variable {paths excludes : List String} {root : String}

theorem mem_collect : path ∈ w.collect paths excludes recursive root ↔
    (∃ argument ∈ paths, path ∈ w.selected recursive (Path.join root argument)) ∧
      path ∉ w.excluded excludes recursive root := by
  rw [collect, mem_sortedPaths, List.mem_filter, List.mem_flatMap, excluded]
  simp

/-- Something stands where a collected path leads. -/
theorem isPresent_of_mem_collect (hw : w.tree.WellFormed)
    (h : path ∈ w.collect paths excludes recursive root) : w.isPresent path = true := by
  obtain ⟨⟨argument, _, hselected⟩, _⟩ := mem_collect.mp h
  exact isPresent_of_mem_selected hw hselected

end Workspace

end DeclGen
