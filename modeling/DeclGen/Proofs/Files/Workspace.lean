import DeclGen.Files.Workspace
import DeclGen.Proofs.Files.Tree

/-!
Reading and writing by paths. A path keeps its place while the workspace grows, and writing at one
place is seen by the paths that lead there only.
-/

namespace DeclGen.Workspace

variable {w w' w'' : Workspace} {path other folder name : String} {place : Location}
  {node : FileNode} {bytes : List UInt8}

theorem find_eq_ok : w.find path = .ok (place, node) ↔
    w.place path = .ok place ∧ w.tree.node? place = some node ∧
      (node = .folder ∨ Path.endsInSlash path = false) := by
  constructor
  · intro h
    unfold find at h
    split at h
    · cases h
    · next p hp =>
      split at h
      · cases h
      · next hnode =>
        cases h
        exact ⟨hp, hnode, .inl rfl⟩
      · next old hnode =>
        split at h
        · cases h
        · next hslash =>
          cases h
          exact ⟨hp, hnode, .inr (by simpa using hslash)⟩
  · rintro ⟨hplace, hnode, hkind⟩
    simp only [find, hplace, hnode]
    rcases hkind with rfl | hslash
    · rfl
    · cases node with
      | folder => rfl
      | file old => simp [hslash]

theorem isPresent_iff :
    w.isPresent path = true ↔ ∃ place node, w.find path = .ok (place, node) := by
  unfold isPresent
  cases h : w.find path with
  | error fault => simp [Except.toOption]
  | ok found =>
    obtain ⟨p, n⟩ := found
    simp [Except.toOption]

theorem isFolder_iff : w.isFolder path = true ↔ ∃ place, w.find path = .ok (place, .folder) := by
  constructor
  · intro h
    unfold isFolder at h
    split at h
    · next p hp => exact ⟨p, hp⟩
    · exact absurd h Bool.false_ne_true
  · rintro ⟨p, hp⟩
    simp only [isFolder, hp]

theorem isPresent_of_isFolder (h : w.isFolder path = true) : w.isPresent path = true := by
  obtain ⟨place, hfind⟩ := isFolder_iff.mp h
  exact isPresent_iff.mpr ⟨place, .folder, hfind⟩

theorem read_eq_ok : w.read path = .ok bytes ↔ ∃ place, w.find path = .ok (place, .file bytes) := by
  constructor
  · intro h
    unfold read at h
    split at h
    · next p old hp =>
      cases h
      exact ⟨p, hp⟩
    · cases h
    · cases h
  · rintro ⟨p, hp⟩
    simp only [read, hp]

theorem write_eq_ok : w.write path bytes = .ok w' ↔
    ∃ place, w.place path = .ok place ∧ Path.endsInSlash path = false ∧
      w.tree.node? place ≠ some .folder ∧
      w' = { w with tree := w.tree.put place (.file bytes) } := by
  unfold write target
  cases hplace : w.place path with
  | error fault => simp
  | ok p =>
    by_cases hbad : Path.endsInSlash path = true ∨ w.tree.node? p = some .folder
    · simp only [hbad, ↓reduceIte, reduceCtorEq, Except.ok.injEq, false_iff]
      rintro ⟨q, rfl, hslash, hfolder, _⟩
      rcases hbad with h | h
      · exact absurd (h.symm.trans hslash) (by simp)
      · exact hfolder h
    · simp only [hbad, ↓reduceIte, Except.ok.injEq]
      rw [not_or, Bool.not_eq_true] at hbad
      constructor
      · rintro rfl
        exact ⟨p, rfl, hbad.1, hbad.2, rfl⟩
      · rintro ⟨q, rfl, _, _, rfl⟩
        rfl

theorem ne_empty_of_place (h : w.place path = .ok place) : path ≠ "" := by
  rintro rfl
  cases h

/-- A path inside a folder is followed from the place of the folder. -/
theorem place_join (w : Workspace) (hne : folder ≠ "") (hpath : Path.isAbsolute path = false) :
    w.place (Path.join folder path) =
      w.place folder >>= fun place => w.tree.follow place (Path.names path) := by
  rw [place, place, if_neg hne, if_neg (Path.join_ne_empty path hne),
    Path.isAbsolute_join hne hpath, Path.names_join folder hpath, FileTree.follow_append]

/-- A name in a folder has its place there. -/
theorem place_join_proper (hne : folder ≠ "") (hname : IsProperName name) :
    w.place (Path.join folder name) = .ok place ↔
      ∃ above, w.find folder = .ok (above, .folder) ∧ place = above ++ [name] := by
  rw [place_join w hne (Path.isAbsolute_eq_false_of_noSlash hname.2.1),
    Path.names_of_proper hname]
  constructor
  · intro h
    cases hfolder : w.place folder with
    | error fault =>
      rw [hfolder] at h
      cases h
    | ok above =>
      rw [hfolder] at h
      change w.tree.follow above [name] = .ok place at h
      have hnode := FileTree.folder_of_follow_cons h
      rw [FileTree.follow_proper hnode hname] at h
      cases h
      exact ⟨above, find_eq_ok.mpr ⟨hfolder, hnode, .inl rfl⟩, rfl⟩
  · rintro ⟨above, hfind, rfl⟩
    obtain ⟨hfolder, hnode, _⟩ := find_eq_ok.mp hfind
    rw [hfolder]
    change w.tree.follow above [name] = _
    rw [FileTree.follow_proper hnode hname, FileTree.follow]

/-- What lies below a folder is found by the path that is joined from its names. -/
theorem find_join_of_mem_below {names : List String} (hw : w.tree.WellFormed)
    (hfolder : w.find folder = .ok (place, .folder))
    (hmem : (names, node) ∈ w.tree.below place) :
    w.find (Path.join folder ("/".intercalate names)) = .ok (place ++ names, node) := by
  obtain ⟨hplace, _, _⟩ := find_eq_ok.mp hfolder
  have hnode := hw.node?_of_mem_below hmem
  have hproper := hw.proper_of_mem_below hmem
  have hne : names ≠ [] := (FileTree.mem_below.mp hmem).1
  refine find_eq_ok.mpr ⟨?_, hnode, .inr ?_⟩
  · rw [place_join w (ne_empty_of_place hplace) (Path.isAbsolute_intercalate hproper), hplace,
      Path.names_intercalate hproper]
    exact hw.follow_eq hproper hnode
  · rw [Path.endsInSlash_join folder (Path.intercalate_ne_empty hproper hne)]
    exact Path.endsInSlash_intercalate hproper

/-- What lies below the home folder is found by its names alone. -/
theorem find_of_mem_below_home {names : List String} (hw : w.tree.WellFormed)
    (hhome : w.find "." = .ok (place, .folder)) (hmem : (names, node) ∈ w.tree.below place) :
    w.find ("/".intercalate names) = .ok (place ++ names, node) := by
  have hnode := hw.node?_of_mem_below hmem
  have hproper := hw.proper_of_mem_below hmem
  have hne : "/".intercalate names ≠ "" :=
    Path.intercalate_ne_empty hproper (FileTree.mem_below.mp hmem).1
  have hplace : place = w.home := by
    obtain ⟨hdot, _, _⟩ := find_eq_ok.mp hhome
    rw [Workspace.place, if_neg (by decide), if_neg (by decide),
      Path.names_of_noSlash (by decide) (by decide)] at hdot
    have hfolder := FileTree.folder_of_follow_cons hdot
    rw [FileTree.follow, hfolder] at hdot
    exact (Except.ok.inj hdot).symm
  refine find_eq_ok.mpr ⟨?_, hnode, .inr (Path.endsInSlash_intercalate hproper)⟩
  rw [Workspace.place, if_neg hne, Path.isAbsolute_intercalate hproper,
    if_neg Bool.false_ne_true, ← hplace, Path.names_intercalate hproper]
  exact hw.follow_eq hproper hnode

/-- A folder is found with a slash behind its path, too. -/
theorem find_join_empty (hfolder : w.find folder = .ok (place, .folder)) :
    w.find (Path.join folder "") = .ok (place, .folder) := by
  obtain ⟨hplace, hnode, _⟩ := find_eq_ok.mp hfolder
  refine find_eq_ok.mpr ⟨?_, hnode, .inl rfl⟩
  rw [place_join w (ne_empty_of_place hplace) rfl, hplace, Path.names_empty]
  rfl

/-- A later state of a workspace. -/
structure Grown (written : List UInt8 → Prop) (w w' : Workspace) : Prop where
  home : w'.home = w.home
  tree : FileTree.Grown written w.tree w'.tree

namespace Grown

variable {written : List UInt8 → Prop}

theorem refl (w : Workspace) : Grown written w w := ⟨rfl, .refl w.tree⟩

theorem trans (h : Grown written w w') (h' : Grown written w' w'') : Grown written w w'' :=
  ⟨h'.home.trans h.home, h.tree.trans h'.tree⟩

theorem place_eq (h : Grown written w w') (hplace : w.place path = .ok place) :
    w'.place path = .ok place := by
  have hne := ne_empty_of_place hplace
  rw [Workspace.place, if_neg hne] at hplace
  rw [Workspace.place, if_neg hne, h.home]
  exact h.tree.follow_eq hplace

/-- What is read later from a path that led to something was there before, or was written. -/
theorem read_or_written (h : Grown written w w') (hpresent : w.isPresent path = true)
    (hread : w'.read path = .ok bytes) : w.read path = .ok bytes ∨ written bytes := by
  obtain ⟨place, node, hfind⟩ := isPresent_iff.mp hpresent
  obtain ⟨later, hlater⟩ := read_eq_ok.mp hread
  obtain ⟨hplace', hnode', _⟩ := find_eq_ok.mp hlater
  obtain ⟨hplace, hnode, _⟩ := find_eq_ok.mp hfind
  obtain rfl : place = later := Except.ok.inj ((h.place_eq hplace).symm.trans hplace')
  cases node with
  | folder => exact absurd ((h.tree.folder hnode).symm.trans hnode') (by simp)
  | file old =>
    rcases h.tree.file hnode with hsame | ⟨new, hnew, hchanged⟩
    · cases hsame.symm.trans hnode'
      exact .inl (read_eq_ok.mpr ⟨place, hfind⟩)
    · cases hchanged.symm.trans hnode'
      exact .inr hnew

end Grown

/-- Writing changes nothing but the file that is written. -/
theorem grown_write {written : List UInt8 → Prop} (h : w.write path bytes = .ok w')
    (hbytes : written bytes) : Grown written w w' := by
  obtain ⟨p, _, _, hnode, rfl⟩ := write_eq_ok.mp h
  exact ⟨rfl, .put_file hnode hbytes⟩

/-- What is written is read from the same path. -/
theorem read_write (h : w.write path bytes = .ok w') : w'.read path = .ok bytes := by
  have hgrown : Grown (fun _ => True) w w' := grown_write h trivial
  obtain ⟨p, hplace, hslash, hnode, rfl⟩ := write_eq_ok.mp h
  have hne : p ≠ [] := by
    rintro rfl
    exact hnode (FileTree.node?_root w.tree)
  refine read_eq_ok.mpr ⟨p, find_eq_ok.mpr ⟨hgrown.place_eq hplace, ?_, .inr hslash⟩⟩
  rw [FileTree.node?_put w.tree p _ hne, if_pos rfl]

/-- What is written at one place does not change what is read from another. -/
theorem read_write_of_ne {place' : Location} (h : w.write path bytes = .ok w')
    (hplace : w.place path = .ok place) (hother : w.place other = .ok place')
    (hne : place' ≠ place) : w'.read other = w.read other := by
  have hgrown : Grown (fun _ => True) w w' := grown_write h trivial
  have hother' := hgrown.place_eq hother
  obtain ⟨p, hp, _, hnode, rfl⟩ := write_eq_ok.mp h
  obtain rfl : place = p := Except.ok.inj (hplace.symm.trans hp)
  have hroot : place ≠ [] := by
    rintro rfl
    exact hnode (FileTree.node?_root w.tree)
  have hkept := FileTree.node?_put w.tree place' (.file bytes) hroot
  rw [if_neg hne] at hkept
  simp only [read, find, hother, hother', hkept]

/-- A later state of a workspace in which nothing is new but folders, where given paths lead. -/
structure FoldersAdded (paths : List String) (w w' : Workspace) : Prop where
  home : w'.home = w.home
  node : ∀ place, w'.tree.node? place = w.tree.node? place ∨
    w.tree.node? place = none ∧ w'.tree.node? place = some .folder ∧
      ∃ path ∈ paths, w'.place path = .ok place

namespace FoldersAdded

variable {paths paths' : List String}

theorem refl (paths : List String) (w : Workspace) : FoldersAdded paths w w :=
  ⟨rfl, fun _ => .inl rfl⟩

theorem grown (h : FoldersAdded paths w w') (written : List UInt8 → Prop) :
    Grown written w w' := by
  refine ⟨h.home, fun {place} hfolder => ?_, fun {place bytes} hfile => ?_⟩
  · rcases h.node place with hsame | ⟨hnone, _⟩
    · rw [hsame, hfolder]
    · exact absurd (hfolder.symm.trans hnone) (by simp)
  · rcases h.node place with hsame | ⟨hnone, _⟩
    · exact .inl (by rw [hsame, hfile])
    · exact absurd (hfile.symm.trans hnone) (by simp)

theorem mono (h : FoldersAdded paths w w') (hsub : paths ⊆ paths') :
    FoldersAdded paths' w w' := by
  refine ⟨h.home, fun place => ?_⟩
  rcases h.node place with hsame | ⟨hnone, hnew, path, hpath, hplace⟩
  · exact .inl hsame
  · exact .inr ⟨hnone, hnew, path, hsub hpath, hplace⟩

theorem trans (h : FoldersAdded paths w w') (h' : FoldersAdded paths w' w'') :
    FoldersAdded paths w w'' := by
  refine ⟨h'.home.trans h.home, fun place => ?_⟩
  rcases h.node place with hsame | ⟨hnone, hnew, path, hpath, hplace⟩
  · rw [← hsame]
    exact h'.node place
  · -- A folder that is there already stays, and the path that leads to it still does.
    have hlater := h'.grown fun _ => True
    exact .inr ⟨hnone, hlater.tree.folder hnew, path, hpath, hlater.place_eq hplace⟩

/-- Where only folders are new, the files are the same. -/
theorem file_iff (h : FoldersAdded paths w w') :
    w'.tree.node? place = some (.file bytes) ↔ w.tree.node? place = some (.file bytes) := by
  rcases h.node place with hsame | ⟨hnone, hnew, _⟩
  · rw [hsame]
  · simp [hnone, hnew]

end FoldersAdded

/-- A folder that is made is new where its path leads, or it is there already. -/
theorem makeFolder_eq_ok (h : w.makeFolder path = .ok w') :
    (∃ place, w.place path = .ok place ∧ w.tree.node? place = none ∧
      w' = { w with tree := w.tree.put place .folder }) ∨ w.isFolder path = true ∧ w' = w := by
  unfold makeFolder at h
  split at h
  · cases h
  · next place hplace =>
    split at h
    · next hnone =>
      cases h
      exact .inl ⟨place, hplace, hnone, rfl⟩
    · split at h
      · next hfolder =>
        cases h
        exact .inr ⟨hfolder, rfl⟩
      · cases h

theorem node?_put_folder (hnone : w.tree.node? place = none) (other : Location) :
    (w.tree.put place .folder).node? other =
      if other = place then some .folder else w.tree.node? other := by
  refine FileTree.node?_put w.tree other .folder ?_
  rintro rfl
  rw [FileTree.node?_root] at hnone
  cases hnone

/-- A new folder is found by the path that it was made for. -/
theorem find_put_folder (hplace : w.place path = .ok place) (hnone : w.tree.node? place = none) :
    find { w with tree := w.tree.put place .folder } path = .ok (place, .folder) := by
  have hgrown : Grown (fun _ => True) w { w with tree := w.tree.put place .folder } :=
    ⟨rfl, .put_folder hnone⟩
  refine find_eq_ok.mpr ⟨hgrown.place_eq hplace, ?_, .inl rfl⟩
  rw [node?_put_folder hnone, if_pos rfl]

theorem foldersAdded_withFolder (w : Workspace) (path : String) :
    FoldersAdded [path] w (w.withFolder path).2 := by
  unfold withFolder
  split
  · next w' hmade =>
    rcases makeFolder_eq_ok hmade with ⟨place, hplace, hnone, rfl⟩ | ⟨_, rfl⟩
    · refine ⟨rfl, fun other => ?_⟩
      rw [node?_put_folder hnone]
      split
      · next hsame =>
        subst hsame
        exact .inr ⟨hnone, rfl, path, List.mem_singleton_self path,
          (find_eq_ok.mp (find_put_folder hplace hnone)).1⟩
      · exact .inl rfl
    · exact .refl [path] w'
  · exact .refl [path] w

theorem isFolder_of_withFolder (h : (w.withFolder path).1 = .ok ()) :
    (w.withFolder path).2.isFolder path = true := by
  unfold withFolder at h ⊢
  cases hmade : w.makeFolder path with
  | error e =>
    rw [hmade] at h
    cases h
  | ok w' =>
    rcases makeFolder_eq_ok hmade with ⟨place, hplace, hnone, rfl⟩ | ⟨hfolder, rfl⟩
    · exact isFolder_iff.mpr ⟨place, find_put_folder hplace hnone⟩
    · exact hfolder

/-- The folders above are made one by one, and nothing else is. -/
theorem foldersAdded_makeFolders (w : Workspace) (path : String) :
    FoldersAdded (Path.ancestors path) w (w.makeFolders path).2 := by
  have hself : ∀ {w : Workspace} {path : String},
      FoldersAdded (Path.ancestors path) w (w.withFolder path).2 := fun {w path} =>
    (foldersAdded_withFolder w path).mono (by simpa using Path.mem_ancestors_self path)
  fun_induction makeFolders w path with
  | case1 path hparent => exact hself
  | case2 path parent name hparent hpresent => exact hself
  | case3 path parent hpresent w' hmade hparent ih =>
    rw [hmade] at ih
    exact ih.mono (Path.ancestors_parent_subset hparent)
  | case4 path parent name hparent hpresent w' hmade hname ih =>
    rw [hmade] at ih
    exact (ih.mono (Path.ancestors_parent_subset hparent)).trans hself
  | case5 path parent name hparent hpresent e w' hmade hfault ih =>
    rw [hmade] at ih
    exact ih.mono (Path.ancestors_parent_subset hparent)
  | case6 path parent hpresent e w' hmade hfault hparent ih =>
    rw [hmade] at ih
    exact ih.mono (Path.ancestors_parent_subset hparent)
  | case7 path parent name hparent hpresent e w' hmade hfault hname ih =>
    rw [hmade] at ih
    exact (ih.mono (Path.ancestors_parent_subset hparent)).trans hself

/-- A path with a name behind that of a folder is followed from that folder. -/
theorem place_of_parent? (w : Workspace) {parent : String}
    (h : Path.parent? path = some (parent, name)) :
    w.place path = w.place parent >>= fun place => w.tree.follow place [name] := by
  have hparent : parent ≠ "" := (Path.parent?_eq_some h).1
  have hpath : path ≠ "" := by
    rintro rfl
    exact absurd (Path.length_parent_lt h) (Nat.not_lt_zero _)
  rw [place, place, if_neg hpath, if_neg hparent, Path.isAbsolute_parent? h,
    Path.names_of_parent? h, FileTree.follow_append]

theorem isFolder_of_dot {parent : String} (h : Path.parent? path = some (parent, "."))
    (hfolder : w.isFolder parent = true) : w.isFolder path = true := by
  obtain ⟨place, hfind⟩ := isFolder_iff.mp hfolder
  obtain ⟨hplace, hnode, _⟩ := find_eq_ok.mp hfind
  have hsame : w.tree.follow place ["."] = .ok place := by
    simp [FileTree.follow, hnode]
  refine isFolder_iff.mpr ⟨place, find_eq_ok.mpr ⟨?_, hnode, .inl rfl⟩⟩
  rw [place_of_parent? w h, hplace]
  exact hsame

/-- A folder that could be made is there. Only where the last name of its path is a dot it may be
missing, if what stands before the dot is no folder. -/
theorem isFolder_makeFolders (h : (w.makeFolders path).1 = .ok ()) :
    (w.makeFolders path).2.isFolder path = true ∨ ∃ parent,
      Path.parent? path = some (parent, ".") ∧
        (w.makeFolders path).2.isFolder parent = false := by
  have hdot : ∀ (w' : Workspace) {path parent : String},
      Path.parent? path = some (parent, ".") → w'.isFolder path = true ∨ ∃ parent,
        Path.parent? path = some (parent, ".") ∧ w'.isFolder parent = false := by
    intro w' path parent hparent
    cases hfolder : w'.isFolder parent with
    | true => exact .inl (isFolder_of_dot hparent hfolder)
    | false => exact .inr ⟨parent, hparent, hfolder⟩
  revert h
  fun_cases makeFolders w path with
  | case1 hparent => exact fun h => .inl (isFolder_of_withFolder h)
  | case2 parent name hparent hpresent => exact fun h => .inl (isFolder_of_withFolder h)
  | case3 parent hpresent w' hmade hparent => exact fun _ => hdot w' hparent
  | case4 parent name hparent hpresent w' hmade hname =>
    exact fun h => .inl (isFolder_of_withFolder h)
  | case5 parent name hparent hpresent e w' hmade hfault => exact fun h => by cases h
  | case6 parent hpresent e w' hmade hfault hparent => exact fun _ => hdot w' hparent
  | case7 parent name hparent hpresent e w' hmade hfault hname =>
    exact fun h => .inl (isFolder_of_withFolder h)

theorem grown_makeFolders (written : List UInt8 → Prop) (w : Workspace) (path : String) :
    Grown written w (w.makeFolders path).2 :=
  (foldersAdded_makeFolders w path).grown written

end DeclGen.Workspace
