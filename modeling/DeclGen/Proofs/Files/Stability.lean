import Mathlib.Data.List.Sort
import DeclGen.Proofs.Files.Collection
import DeclGen.Proofs.Files.Naming

/-!
Collections in a tree that grows. While folders stay and files stay files, a search keeps finding
what it has found, and of all that was there before it finds nothing else. So a collection stays the
same as long as nothing is added but folders and declaration files.
-/

namespace DeclGen

namespace Workspace

variable {w w' : Workspace} {written : List UInt8 → Prop} {folder path name : String}
  {place : Location} {node : FileNode}

theorem Grown.find_folder (h : Grown written w w') (hfind : w.find folder = .ok (place, .folder)) :
    w'.find folder = .ok (place, .folder) := by
  obtain ⟨hplace, hnode, _⟩ := find_eq_ok.mp hfind
  exact find_eq_ok.mpr ⟨h.place_eq hplace, h.tree.folder hnode, .inl rfl⟩

theorem Grown.isFolder (h : Grown written w w') (hfolder : w.isFolder folder = true) :
    w'.isFolder folder = true := by
  obtain ⟨place, hfind⟩ := isFolder_iff.mp hfolder
  exact isFolder_iff.mpr ⟨place, h.find_folder hfind⟩

theorem Grown.isPresent (h : Grown written w w') (hpresent : w.isPresent path = true) :
    w'.isPresent path = true := by
  obtain ⟨place, node, hfind⟩ := isPresent_iff.mp hpresent
  obtain ⟨hplace, hnode, hkind⟩ := find_eq_ok.mp hfind
  obtain ⟨later, hlater, hfolder⟩ := h.tree.exists_node? hnode
  exact isPresent_iff.mpr ⟨place, later,
    find_eq_ok.mpr ⟨h.place_eq hplace, hlater, hkind.imp_left hfolder⟩⟩

/-- What stands inside a folder tells that the folder is there. -/
theorem isFolder_of_isPresent_join (hne : folder ≠ "") (hpath : Path.isAbsolute path = false)
    (h : w.isPresent (Path.join folder path) = true) : w.isFolder folder = true := by
  obtain ⟨place, node, hfind⟩ := isPresent_iff.mp h
  obtain ⟨hplace, hnode, hkind⟩ := find_eq_ok.mp hfind
  rw [place_join w hne hpath] at hplace
  cases hfolder : w.place folder with
  | error fault =>
    rw [hfolder] at hplace
    cases hplace
  | ok above =>
    rw [hfolder] at hplace
    change w.tree.follow above (Path.names path) = .ok place at hplace
    refine isFolder_iff.mpr ⟨above, find_eq_ok.mpr ⟨hfolder, ?_, .inl rfl⟩⟩
    by_cases hempty : path = ""
    · -- With a slash behind it a path leads to folders only.
      subst hempty
      rw [Path.names_empty, FileTree.follow] at hplace
      cases hplace
      rw [Path.endsInSlash_join_empty hne] at hkind
      rcases hkind with rfl | hslash
      · exact hnode
      · cases hslash
    · cases hnames : Path.names path with
      | nil => exact absurd hnames (Path.names_ne_nil hempty hpath)
      | cons first rest =>
        rw [hnames] at hplace
        exact FileTree.folder_of_follow_cons hplace

theorem Grown.exists_mem_below {names : List String} (hw : w.tree.WellFormed)
    (h : Grown written w w') (hmem : (names, node) ∈ w.below folder) :
    ∃ later, (names, later) ∈ w'.below folder ∧ (node = .folder → later = .folder) := by
  obtain ⟨place, hfind, hbelow⟩ := mem_below.mp hmem
  have hne := (FileTree.mem_below.mp hbelow).1
  obtain ⟨later, hlater, hfolder⟩ := h.tree.exists_node? (hw.node?_of_mem_below hbelow)
  have hlisted := FileTree.mem_of_node? (by simp [hne]) hlater
  exact ⟨later, mem_below.mpr ⟨place, h.find_folder hfind, FileTree.mem_below.mpr ⟨hne, hlisted⟩⟩,
    hfolder⟩

/-- What proper names lead to from a folder is listed below it. -/
theorem exists_mem_below_of_isPresent {names : List String} (hne : folder ≠ "")
    (hproper : ∀ name ∈ names, IsProperName name) (hsome : names ≠ [])
    (hpresent : w.isPresent (Path.join folder ("/".intercalate names)) = true) :
    ∃ node, (names, node) ∈ w.below folder ∧
      (w.isFolder (Path.join folder ("/".intercalate names)) = true → node = .folder) := by
  have hrelative := Path.isAbsolute_intercalate hproper
  obtain ⟨above, hfolder⟩ := isFolder_iff.mp (isFolder_of_isPresent_join hne hrelative hpresent)
  obtain ⟨reached, node, hfound⟩ := isPresent_iff.mp hpresent
  obtain ⟨hplace, hnode, _⟩ := find_eq_ok.mp hfound
  rw [place_join w hne hrelative, (find_eq_ok.mp hfolder).1,
    Path.names_intercalate hproper] at hplace
  obtain rfl := FileTree.eq_append_of_follow hproper hplace
  refine ⟨node, mem_below.mpr ⟨above, hfolder, FileTree.mem_below.mpr
    ⟨hsome, FileTree.mem_of_node? (by simp [hsome]) hnode⟩⟩, fun hisFolder => ?_⟩
  obtain ⟨_, hfound'⟩ := isFolder_iff.mp hisFolder
  cases hfound.symm.trans hfound'
  rfl

/-- What lies below a folder later, and was there, lay below it. -/
theorem exists_mem_below_earlier {names : List String} (hw' : w'.tree.WellFormed)
    (hmem : (names, node) ∈ w'.below folder)
    (hpresent : w.isPresent (Path.join folder ("/".intercalate names)) = true) :
    ∃ earlier, (names, earlier) ∈ w.below folder ∧
      (w.isFolder (Path.join folder ("/".intercalate names)) = true → earlier = .folder) := by
  obtain ⟨place, hfind, hbelow⟩ := mem_below.mp hmem
  exact exists_mem_below_of_isPresent (ne_empty_of_place (find_eq_ok.mp hfind).1)
    (hw'.proper_of_mem_below hbelow) (FileTree.mem_below.mp hbelow).1 hpresent

theorem isWanted_of_imp {foldersOnly : Bool} {later : FileNode}
    (himp : foldersOnly = true → node = .folder → later = .folder)
    (h : isWanted foldersOnly node = true) : isWanted foldersOnly later = true := by
  cases foldersOnly with
  | false => rfl
  | true =>
    have hfolder : node = .folder := by simpa [isWanted] using h
    simp [isWanted, himp rfl hfolder]

variable {recursive foldersOnly : Bool}

theorem isAbsolute_of_mem_searchName (hw : w.tree.WellFormed) (hname : '/' ∉ name.toList)
    (h : path ∈ w.searchName recursive foldersOnly folder name) :
    Path.isAbsolute path = false := by
  rw [mem_searchName] at h
  split_ifs at h with hdeep hwild hempty
  · obtain ⟨_, rfl | ⟨names, node, hmem, _, _, rfl⟩⟩ := mem_deepNames.mp h
    · rfl
    · exact Path.isAbsolute_intercalate (proper_of_mem_below hw hmem)
  · obtain ⟨node, hmem, _⟩ := mem_matchingNames.mp h
    have hproper := proper_of_mem_below hw (mem_children.mp hmem)
    exact Path.isAbsolute_eq_false_of_noSlash (hproper path (List.mem_singleton_self path)).2.1
  · obtain ⟨rfl, _⟩ := h
    rfl
  · obtain ⟨rfl, _⟩ := h
    exact Path.isAbsolute_eq_false_of_noSlash hname

/-- What a name of a pattern stands for it stands for later. -/
theorem Grown.mem_searchName (hw : w.tree.WellFormed) (h : Grown written w w')
    (hmem : path ∈ w.searchName recursive foldersOnly folder name) :
    path ∈ w'.searchName recursive foldersOnly folder name := by
  rw [Workspace.mem_searchName] at hmem ⊢
  split_ifs at hmem ⊢ with hdeep hwild hempty
  · obtain ⟨hfolder, rfl | ⟨names, node, hbelow, hwanted, hshown, rfl⟩⟩ := mem_deepNames.mp hmem
    · exact mem_deepNames.mpr ⟨h.isFolder hfolder, .inl rfl⟩
    · obtain ⟨later, hlater, hsame⟩ := h.exists_mem_below hw hbelow
      exact mem_deepNames.mpr ⟨h.isFolder hfolder, .inr ⟨names, later, hlater,
        isWanted_of_imp (fun _ => hsame) hwanted, hshown, rfl⟩⟩
  · obtain ⟨node, hchild, hwanted, hmatches⟩ := mem_matchingNames.mp hmem
    obtain ⟨later, hlater, hsame⟩ := h.exists_mem_below hw (mem_children.mp hchild)
    exact mem_matchingNames.mpr ⟨later, mem_children.mpr hlater,
      isWanted_of_imp (fun _ => hsame) hwanted, hmatches⟩
  · exact ⟨hmem.1, h.isFolder hmem.2⟩
  · exact ⟨hmem.1, h.isPresent hmem.2⟩

/-- What a name of a pattern stands for later it stood for, if that was there, and was a folder
where only folders are looked for. -/
theorem mem_searchName_earlier (hw' : w'.tree.WellFormed) (hfolder : w.isFolder folder = true)
    (hmem : path ∈ w'.searchName recursive foldersOnly folder name)
    (hpresent : w.isPresent (Path.join folder path) = true)
    (hwanted : foldersOnly = true → w.isFolder (Path.join folder path) = true) :
    path ∈ w.searchName recursive foldersOnly folder name := by
  have hlisted : listedFolder folder = folder := by
    obtain ⟨_, hfind⟩ := isFolder_iff.mp hfolder
    exact listedFolder_of_ne (ne_empty_of_place (find_eq_ok.mp hfind).1)
  rw [Workspace.mem_searchName] at hmem ⊢
  simp only [mem_deepNames, mem_matchingNames, hlisted] at hmem ⊢
  split_ifs at hmem ⊢ with hdeep hwild hempty
  · obtain ⟨_, rfl | ⟨names, node, hbelow, hnode, hshown, rfl⟩⟩ := hmem
    · exact ⟨hfolder, .inl rfl⟩
    · obtain ⟨earlier, hearlier, hsame⟩ := exists_mem_below_earlier hw' hbelow hpresent
      exact ⟨hfolder, .inr ⟨names, earlier, hearlier,
        isWanted_of_imp (fun honly _ => hsame (hwanted honly)) hnode, hshown, rfl⟩⟩
  · obtain ⟨node, hchild, hnode, hmatches⟩ := hmem
    have hjoined : Path.join folder ("/".intercalate [path]) = Path.join folder path := by
      rw [String.intercalate_singleton]
    obtain ⟨earlier, hearlier, hsame⟩ :=
      exists_mem_below_earlier hw' (mem_children.mp hchild) (hjoined ▸ hpresent)
    exact ⟨earlier, mem_children.mpr hearlier,
      isWanted_of_imp (fun honly _ => hsame (hjoined ▸ hwanted honly)) hnode, hmatches⟩
  · exact ⟨hmem.1, hfolder⟩
  · exact ⟨hmem.1, hmem.1 ▸ hpresent⟩

theorem mem_search_iff {folders names : List String} : path ∈ w.search recursive folders names ↔
    ∃ folder ∈ folders, path ∈ w.search recursive [folder] names := by
  induction names generalizing folders with
  | nil => simp [search]
  | cons name rest ih =>
    simp only [search, List.flatMap_cons, List.flatMap_nil, List.append_nil]
    rw [ih]
    constructor
    · rintro ⟨next, hnext, hfound⟩
      obtain ⟨folder, hfolder, hmem⟩ := List.mem_flatMap.mp hnext
      exact ⟨folder, hfolder, ih.mpr ⟨next, hmem, hfound⟩⟩
    · rintro ⟨folder, hfolder, hfound⟩
      obtain ⟨next, hmem, hfound⟩ := ih.mp hfound
      exact ⟨next, List.mem_flatMap.mpr ⟨folder, hfolder, hmem⟩, hfound⟩

/-- A search goes on from each path that the first name stands for. -/
theorem mem_search_cons {rest : List String} : path ∈ w.search recursive [folder] (name :: rest) ↔
    ∃ found ∈ w.searchName recursive (!rest.isEmpty) folder name,
      path ∈ w.search recursive [Path.join folder found] rest := by
  rw [search, List.flatMap_cons, List.flatMap_nil, List.append_nil, mem_search_iff]
  simp only [List.mem_map, exists_exists_and_eq_and]

/-- A search passes through folders, at least on the way to what was there already. -/
theorem isFolder_of_mem_search {names : List String} (hw' : w'.tree.WellFormed)
    (hne : folder ≠ "") (hnames : ∀ name ∈ names, '/' ∉ name.toList) (hsome : names ≠ [])
    (hmem : path ∈ w'.search recursive [folder] names) (hpresent : w.isPresent path = true) :
    w.isFolder folder = true := by
  induction names generalizing folder with
  | nil => exact absurd rfl hsome
  | cons name rest ih =>
    obtain ⟨found, hfound, hrest⟩ := mem_search_cons.mp hmem
    have hrelative := isAbsolute_of_mem_searchName hw' (hnames name List.mem_cons_self) hfound
    refine isFolder_of_isPresent_join hne hrelative ?_
    cases rest with
    | nil => rwa [← List.mem_singleton.mp hrest]
    | cons next rest =>
      exact isPresent_of_isFolder (ih (Path.join_ne_empty found hne)
        (fun n hn => hnames n (List.mem_cons_of_mem _ hn)) (List.cons_ne_nil next rest) hrest)

/-- Of what was there already, a search finds the same later. -/
theorem Grown.mem_search_iff_of_isPresent {names : List String} (hw : w.tree.WellFormed)
    (hw' : w'.tree.WellFormed) (h : Grown written w w') (hne : folder ≠ "")
    (hnames : ∀ name ∈ names, '/' ∉ name.toList) (hpresent : w.isPresent path = true) :
    path ∈ w'.search recursive [folder] names ↔ path ∈ w.search recursive [folder] names := by
  induction names generalizing folder with
  | nil => simp [search]
  | cons name rest ih =>
    have hrest : ∀ n ∈ rest, '/' ∉ n.toList := fun n hn => hnames n (List.mem_cons_of_mem _ hn)
    rw [mem_search_cons, mem_search_cons]
    constructor
    · rintro ⟨found, hfound, hmem⟩
      have hfolder := isFolder_of_mem_search hw' hne hnames (List.cons_ne_nil name rest)
        (mem_search_cons.mpr ⟨found, hfound, hmem⟩) hpresent
      have hjoined := Path.join_ne_empty found hne
      have hwanted : (!rest.isEmpty) = true → w.isFolder (Path.join folder found) = true :=
        fun honly => isFolder_of_mem_search hw' hjoined hrest (by simpa using honly) hmem hpresent
      have hthere : w.isPresent (Path.join folder found) = true := by
        cases rest with
        | nil => rwa [← List.mem_singleton.mp hmem]
        | cons next rest => exact isPresent_of_isFolder (hwanted rfl)
      exact ⟨found, mem_searchName_earlier hw' hfolder hfound hthere hwanted,
        (ih hjoined hrest).mp hmem⟩
    · rintro ⟨found, hfound, hmem⟩
      exact ⟨found, h.mem_searchName hw hfound, (ih (Path.join_ne_empty found hne) hrest).mpr hmem⟩

/-- Of what was there already, an absolute pattern stands for the same later. -/
theorem Grown.mem_glob_iff_of_isPresent {pattern : String} (hw : w.tree.WellFormed)
    (hw' : w'.tree.WellFormed) (h : Grown written w w')
    (hpattern : Path.isAbsolute pattern = true) (hpresent : w.isPresent path = true) :
    path ∈ w'.glob pattern recursive ↔ path ∈ w.glob pattern recursive := by
  rw [mem_glob, mem_glob]
  split_ifs with hwild
  · exact and_congr_left' (h.mem_search_iff_of_isPresent hw hw' (Glob.base_ne_empty hpattern)
      Glob.noSlash_of_mem_names hpresent)
  · exact and_congr_right fun hsame => ⟨fun _ => hsame ▸ hpresent, h.isPresent⟩

/-- The last name of a place has the extension of schema files. -/
def IsSchemaPlace (place : Location) : Prop := isSchemaName (place.getLastD "") = true

/-- The last name of a place has the extension of declaration files. -/
def IsDeclarationPlace (place : Location) : Prop :=
  declarationSuffix.toList <:+ (place.getLastD "").toList

theorem IsSchemaPlace.not_isDeclarationPlace (h : IsSchemaPlace place) :
    ¬ IsDeclarationPlace place := by
  intro hdeclaration
  have hschema := List.isSuffixOf_iff_suffix.mp h
  obtain ⟨stem, hstem⟩ := hschema
  obtain ⟨stem', hstem'⟩ := hdeclaration
  have hlast := congrArg List.getLast? (hstem.trans hstem'.symm)
  rw [List.getLast?_append_of_ne_nil _ (by decide), List.getLast?_append_of_ne_nil _ (by decide)]
    at hlast
  exact absurd hlast (by decide)

/-- The place of a declaration file tells that it is one. -/
theorem isDeclarationPlace_of_place (h : w.place (outputPath path folder) = .ok place) :
    IsDeclarationPlace place := by
  obtain ⟨above, hnames⟩ := names_outputPath path folder
  rw [Workspace.place, if_neg (ne_empty_of_place h), hnames, FileTree.follow_append] at h
  generalize (if Path.isAbsolute (outputPath path folder) = true then [] else w.home) = start at h
  cases hreached : w.tree.follow start above with
  | error fault =>
    rw [hreached] at h
    cases h
  | ok reached =>
    rw [hreached] at h
    change w.tree.follow reached [declarationName path] = .ok place at h
    have hproper : ∀ name ∈ [declarationName path], IsProperName name := by
      simpa using isProperName_declarationName path
    rw [FileTree.eq_append_of_follow hproper h, IsDeclarationPlace, declarationName]
    simp

/-- A later state of a workspace in which nothing is new but folders, where given paths lead, and
declaration files, in place of other files or of nothing. -/
structure Declared (folders : List String) (w w' : Workspace) : Prop where
  home : w'.home = w.home
  node : ∀ place, w'.tree.node? place = w.tree.node? place ∨
    (w.tree.node? place = none ∧ w'.tree.node? place = some .folder ∧
      ∃ path ∈ folders, w'.place path = .ok place) ∨
    (IsDeclarationPlace place ∧ w.tree.node? place ≠ some .folder ∧
      ∃ bytes, w'.tree.node? place = some (.file bytes))

/-- The same schema files, with the same bytes in them. -/
def SameSchemaFiles (w w' : Workspace) : Prop := ∀ place bytes, IsSchemaPlace place →
  (w'.tree.node? place = some (.file bytes) ↔ w.tree.node? place = some (.file bytes))

theorem SameSchemaFiles.symm (h : w.SameSchemaFiles w') : w'.SameSchemaFiles w :=
  fun place bytes hschema => (h place bytes hschema).symm

theorem SameSchemaFiles.trans {w'' : Workspace} (h : w.SameSchemaFiles w')
    (h' : w'.SameSchemaFiles w'') : w.SameSchemaFiles w'' :=
  fun place bytes hschema => (h' place bytes hschema).trans (h place bytes hschema)

namespace Declared

variable {folders : List String} {w'' : Workspace}

theorem refl (folders : List String) (w : Workspace) : Declared folders w w :=
  ⟨rfl, fun _ => .inl rfl⟩

theorem grown (h : Declared folders w w') : Grown (fun _ => True) w w' := by
  refine ⟨h.home, fun {place} hfolder => ?_, fun {place bytes} hfile => ?_⟩
  · rcases h.node place with hsame | ⟨hnone, _⟩ | ⟨_, hnot, _⟩
    · rw [hsame, hfolder]
    · cases hfolder.symm.trans hnone
    · exact absurd hfolder hnot
  · rcases h.node place with hsame | ⟨hnone, _⟩ | ⟨_, _, new, hnew⟩
    · exact .inl (hsame.trans hfile)
    · cases hfile.symm.trans hnone
    · exact .inr ⟨new, trivial, hnew⟩

theorem trans (h : Declared folders w w') (h' : Declared folders w' w'') :
    Declared folders w w'' := by
  refine ⟨h'.home.trans h.home, fun place => ?_⟩
  rcases h.node place with hsame | ⟨hnone, hnew, path, hpath, hplace⟩ |
    ⟨hdeclaration, hnot, bytes, hfile⟩
  · rw [← hsame]
    exact h'.node place
  · exact .inr (.inl ⟨hnone, h'.grown.tree.folder hnew, path, hpath, h'.grown.place_eq hplace⟩)
  · -- A declaration file stays one, with its bytes or with later ones.
    refine .inr (.inr ⟨hdeclaration, hnot, ?_⟩)
    rcases h'.grown.tree.file hfile with hsame | ⟨new, _, hnew⟩
    · exact ⟨bytes, hsame⟩
    · exact ⟨new, hnew⟩

theorem sameSchemaFiles (h : Declared folders w w') : w.SameSchemaFiles w' := by
  intro place bytes hschema
  rcases h.node place with hsame | ⟨hnone, hnew, _⟩ | ⟨hdeclaration, _⟩
  · rw [hsame]
  · rw [hnone, hnew]
    simp
  · exact absurd hdeclaration hschema.not_isDeclarationPlace

end Declared

theorem FoldersAdded.declared {folders : List String} (h : FoldersAdded folders w w') :
    Declared folders w w' :=
  ⟨h.home, fun place => (h.node place).imp_right .inl⟩

variable {bytes : List UInt8} {argument : String}

/-- A path leads to a schema file. -/
def LeadsToSchema (w : Workspace) (path : String) : Prop :=
  ∃ place bytes, w.find path = .ok (place, .file bytes) ∧ IsSchemaPlace place

/-- A schema file is found later, and is the same. -/
theorem LeadsToSchema.find_eq (h : w.LeadsToSchema path) (hgrown : Grown written w w')
    (hsame : w.SameSchemaFiles w') : w'.find path = w.find path := by
  obtain ⟨place, bytes, hfind, hschema⟩ := h
  obtain ⟨hplace, hnode, hslash⟩ := find_eq_ok.mp hfind
  rw [hfind]
  exact find_eq_ok.mpr ⟨hgrown.place_eq hplace, (hsame place bytes hschema).mpr hnode, hslash⟩

theorem LeadsToSchema.later (h : w.LeadsToSchema path) (hgrown : Grown written w w')
    (hsame : w.SameSchemaFiles w') : w'.LeadsToSchema path := by
  have hfound := h.find_eq hgrown hsame
  obtain ⟨place, bytes, hfind, hschema⟩ := h
  exact ⟨place, bytes, hfound.trans hfind, hschema⟩

theorem isSchemaPlace_append {names : List String}
    (h : isSchemaName (names.getLastD "") = true) : IsSchemaPlace (place ++ names) := by
  rcases List.eq_nil_or_concat names with rfl | ⟨init, last, rfl⟩
  · exact absurd h (by decide)
  · rw [IsSchemaPlace]
    simpa [← List.append_assoc] using h

/-- The schema files below a folder are the same later. -/
theorem mem_below_file_iff {names : List String} (hw : w.tree.WellFormed)
    (hw' : w'.tree.WellFormed) (h : Grown written w w') (hsame : w.SameSchemaFiles w')
    (hfolder : w.isFolder folder = true) (hschema : isSchemaName (names.getLastD "") = true) :
    (names, .file bytes) ∈ w'.below folder ↔ (names, .file bytes) ∈ w.below folder := by
  obtain ⟨place, hfind⟩ := isFolder_iff.mp hfolder
  have hfind' := h.find_folder hfind
  have hplace := hsame (place ++ names) bytes (isSchemaPlace_append hschema)
  rw [mem_below_iff_node? hw hfind, mem_below_iff_node? hw' hfind', hplace]

/-- A folder asks for the same schema files later. -/
theorem mem_selected_iff (hw : w.tree.WellFormed) (hw' : w'.tree.WellFormed)
    (h : Grown written w w') (hsame : w.SameSchemaFiles w')
    (hfolder : w.isFolder argument = true) :
    path ∈ w'.selected recursive argument ↔ path ∈ w.selected recursive argument := by
  rw [selected, selected, if_pos hfolder, if_pos (h.isFolder hfolder)]
  cases recursive with
  | true =>
    rw [if_pos rfl, if_pos rfl, mem_schemasBelow, mem_schemasBelow]
    refine exists₂_congr fun names bytes => and_congr_left fun hrest => ?_
    exact mem_below_file_iff hw hw' h hsame hfolder hrest.1
  | false =>
    rw [if_neg Bool.false_ne_true, if_neg Bool.false_ne_true, mem_schemasIn, mem_schemasIn]
    refine exists₂_congr fun name bytes => and_congr_left fun hrest => ?_
    rw [mem_children, mem_children]
    exact mem_below_file_iff hw hw' h hsame hfolder hrest.1

theorem leadsToSchema_of_mem_selected (hw : w.tree.WellFormed)
    (hfolder : w.isFolder argument = true) (h : path ∈ w.selected recursive argument) :
    w.LeadsToSchema path := by
  have hbelow : ∀ {names : List String} {bytes : List UInt8},
      (names, .file bytes) ∈ w.below argument → isSchemaName (names.getLastD "") = true →
        w.LeadsToSchema (Path.join argument ("/".intercalate names)) := by
    intro names bytes hmem hschema
    obtain ⟨place, hfind, hlisted⟩ := mem_below.mp hmem
    exact ⟨_, bytes, find_join_of_mem_below hw hfind hlisted, isSchemaPlace_append hschema⟩
  rw [selected, if_pos hfolder] at h
  split at h
  · obtain ⟨names, bytes, hmem, hschema, rfl⟩ := mem_schemasBelow.mp h
    exact hbelow hmem hschema
  · obtain ⟨name, bytes, hmem, hschema, rfl⟩ := mem_schemasIn.mp h
    rw [← String.intercalate_singleton (s := "/") (t := name)]
    exact hbelow (mem_children.mp hmem) hschema

variable {paths excludes : List String} {root : String}

/-- Out of folders only schema files are collected. -/
theorem leadsToSchema_of_mem_collect (hw : w.tree.WellFormed)
    (hfolders : ∀ path ∈ paths, w.isFolder (Path.join root path) = true)
    (h : path ∈ w.collect paths excludes recursive root) : w.LeadsToSchema path := by
  obtain ⟨⟨argument, hargument, hselected⟩, _⟩ := mem_collect.mp h
  exact leadsToSchema_of_mem_selected hw (hfolders argument hargument) hselected

/-- What is collected out of folders stays the same while the schema files do and the rest of the
tree grows. -/
theorem collect_eq (hw : w.tree.WellFormed) (hw' : w'.tree.WellFormed)
    (h : Grown written w w') (hsame : w.SameSchemaFiles w')
    (hroot : Path.isAbsolute root = true)
    (hfolders : ∀ path ∈ paths, w.isFolder (Path.join root path) = true) :
    w'.collect paths excludes recursive root = w.collect paths excludes recursive root := by
  refine List.Pairwise.eq_of_mem_iff (pairwise_sortedPaths _) (pairwise_sortedPaths _)
    fun path => ?_
  have hselected : (∃ argument ∈ paths, path ∈ w'.selected recursive (Path.join root argument)) ↔
      ∃ argument ∈ paths, path ∈ w.selected recursive (Path.join root argument) :=
    exists_congr fun argument => and_congr_right fun hargument =>
      mem_selected_iff hw hw' h hsame (hfolders argument hargument)
  rw [mem_collect, mem_collect, hselected]
  refine and_congr_right fun ⟨argument, hargument, hasked⟩ => not_congr ?_
  have hpresent := isPresent_of_mem_selected hw hasked
  rw [excluded, excluded, List.mem_flatMap, List.mem_flatMap]
  exact exists_congr fun pattern => and_congr_right fun _ =>
    h.mem_glob_iff_of_isPresent hw hw' (Path.isAbsolute_join_of_isAbsolute pattern hroot) hpresent

end Workspace

end DeclGen
