import DeclGen.Proofs.Files.Workspace

/-!
Writing files and making folders, once and again. Both keep a tree well-formed. What an attempt to
make folders leaves behind is left alone by a second one, which succeeds exactly if the folder is
there.
-/

namespace DeclGen.Workspace

variable {w w' : Workspace} {path parent name : String} {place : Location} {bytes : List UInt8}

/-- A path leads to a folder, or to a name in one. -/
theorem folder_of_place (hw : w.tree.WellFormed) (h : w.place path = .ok place) :
    w.tree.node? place = some .folder ∨ ∃ above name,
      place = above ++ [name] ∧ IsProperName name ∧ w.tree.node? above = some .folder := by
  have hne := ne_empty_of_place h
  rw [Workspace.place, if_neg hne] at h
  refine hw.folder_of_follow ?_ Path.noSlash_of_mem_names h
  cases habsolute : Path.isAbsolute path with
  | true => exact FileTree.node?_root w.tree
  | false =>
    rw [habsolute, if_neg Bool.false_ne_true] at h
    rw [if_neg Bool.false_ne_true]
    cases hnames : Path.names path with
    | nil => exact absurd hnames (Path.names_ne_nil hne habsolute)
    | cons name rest =>
      rw [hnames] at h
      exact FileTree.folder_of_follow_cons h

/-- A node that is put where a path leads, and no folder stands, keeps the tree well-formed. -/
theorem wellFormed_put {node : FileNode} (hw : w.tree.WellFormed) (h : w.place path = .ok place)
    (hnew : w.tree.node? place ≠ some .folder) : (w.tree.put place node).WellFormed := by
  rcases folder_of_place hw h with hfolder | ⟨above, name, rfl, hname, habove⟩
  · exact absurd hfolder hnew
  · exact hw.put habove hname fun hfolder => absurd hfolder hnew

theorem wellFormed_write (hw : w.tree.WellFormed) (h : w.write path bytes = .ok w') :
    w'.tree.WellFormed := by
  obtain ⟨place, hplace, _, hnode, rfl⟩ := write_eq_ok.mp h
  exact wellFormed_put hw hplace hnode

theorem wellFormed_withFolder (hw : w.tree.WellFormed) (path : String) :
    (w.withFolder path).2.tree.WellFormed := by
  unfold withFolder
  split
  · next after hmade =>
    rcases makeFolder_eq_ok hmade with ⟨place, hplace, hnone, rfl⟩ | ⟨_, rfl⟩
    · exact wellFormed_put hw hplace (by simp [hnone])
    · exact hw
  · exact hw

theorem wellFormed_makeFolders (hw : w.tree.WellFormed) (path : String) :
    (w.makeFolders path).2.tree.WellFormed := by
  fun_induction makeFolders w path with
  | case1 path hparent => exact wellFormed_withFolder hw path
  | case2 path parent name hparent hpresent => exact wellFormed_withFolder hw path
  | case3 path parent hpresent w' hmade hparent ih => simpa only [hmade] using ih
  | case4 path parent name hparent hpresent w' hmade hname ih =>
    exact wellFormed_withFolder (by simpa only [hmade] using ih) path
  | case5 path parent name hparent hpresent e w' hmade hfault ih => simpa only [hmade] using ih
  | case6 path parent hpresent e w' hmade hfault hparent ih => simpa only [hmade] using ih
  | case7 path parent name hparent hpresent e w' hmade hfault hname ih =>
    exact wellFormed_withFolder (by simpa only [hmade] using ih) path

theorem withFolder_of_isFolder (h : w.isFolder path = true) : w.withFolder path = (.ok (), w) := by
  obtain ⟨place, hfind⟩ := isFolder_iff.mp h
  obtain ⟨hplace, hnode, _⟩ := find_eq_ok.mp hfind
  simp only [withFolder, makeFolder, hplace, hnode, h, ↓reduceIte]

/-- An attempt to make one folder fails and changes nothing, or the folder is there. -/
theorem withFolder_cases (w : Workspace) (path : String) :
    (∃ e, w.withFolder path = (.error e, w) ∧ w.isFolder path = false) ∨
      (w.withFolder path).1 = .ok () ∧ (w.withFolder path).2.isFolder path = true := by
  cases hresult : (w.withFolder path).1 with
  | ok done => exact .inr ⟨rfl, isFolder_of_withFolder hresult⟩
  | error e =>
    refine .inl ⟨e, ?_, ?_⟩
    · unfold withFolder at hresult ⊢
      cases hmade : w.makeFolder path with
      | ok after =>
        rw [hmade] at hresult
        cases hresult
      | error e' =>
        rw [hmade] at hresult
        cases hresult
        rfl
    · rw [Bool.eq_false_iff]
      intro hfolder
      rw [withFolder_of_isFolder hfolder] at hresult
      cases hresult

/-- A path has a place only if there is a folder above its last name. -/
theorem isFolder_parent_of_place (h : Path.parent? path = some (parent, name))
    (hplace : w.place path = .ok place) : w.isFolder parent = true := by
  rw [place_of_parent? w h] at hplace
  cases habove : w.place parent with
  | error fault =>
    rw [habove] at hplace
    cases hplace
  | ok above =>
    rw [habove] at hplace
    exact isFolder_iff.mpr ⟨above,
      find_eq_ok.mpr ⟨habove, FileTree.folder_of_follow_cons hplace, .inl rfl⟩⟩

theorem isFolder_parent (h : Path.parent? path = some (parent, name))
    (hfolder : w.isFolder path = true) : w.isFolder parent = true := by
  obtain ⟨place, hfind⟩ := isFolder_iff.mp hfolder
  exact isFolder_parent_of_place h (find_eq_ok.mp hfind).1

theorem isFolder_eq_false_of_parent (h : Path.parent? path = some (parent, name))
    (hparent : w.isFolder parent = false) : w.isFolder path = false := by
  rw [Bool.eq_false_iff] at hparent ⊢
  exact mt (isFolder_parent h) hparent

/-- No folder is made in what is no folder. -/
theorem withFolder_of_parent (h : Path.parent? path = some (parent, name))
    (hparent : w.isFolder parent = false) : ∃ e, w.withFolder path = (.error e, w) := by
  rw [Bool.eq_false_iff] at hparent
  rcases w.withFolder_cases path with ⟨e, hfail, _⟩ | ⟨hok, _⟩
  · exact ⟨e, hfail⟩
  · unfold withFolder at hok
    split at hok
    · next after hmade =>
      rcases makeFolder_eq_ok hmade with ⟨place, hplace, _⟩ | ⟨hfolder, _⟩
      · exact absurd (isFolder_parent_of_place h hplace) hparent
      · exact absurd (isFolder_parent h hfolder) hparent
    · cases hok

theorem makeFolders_of_none (h : Path.parent? path = none) :
    w.makeFolders path = w.withFolder path := by
  rw [makeFolders]
  split
  · rfl
  · next hparent => cases h.symm.trans hparent

theorem makeFolders_of_isPresent (h : Path.parent? path = some (parent, name))
    (hpresent : w.isPresent parent = true) : w.makeFolders path = w.withFolder path := by
  rw [makeFolders]
  split
  · rfl
  · next hparent =>
    cases h.symm.trans hparent
    rw [if_pos hpresent]

theorem makeFolders_of_isFolder (h : w.isFolder path = true) :
    w.makeFolders path = (.ok (), w) := by
  rw [← withFolder_of_isFolder h]
  cases hparent : Path.parent? path with
  | none => exact makeFolders_of_none hparent
  | some above =>
    exact makeFolders_of_isPresent hparent (isPresent_of_isFolder (isFolder_parent hparent h))

theorem follow_ne_present (t : FileTree) (place : Location) (names : List String) :
    t.follow place names ≠ .error .present := by
  induction names generalizing place with
  | nil => simp [FileTree.follow]
  | cons name rest ih =>
    unfold FileTree.follow
    split
    · simp
    · simp
    · split
      · exact ih place
      · split
        · exact ih place.dropLast
        · exact ih (place ++ [name])

/-- Where a folder cannot be made because something is present, the path has a place and a node
stands there. -/
theorem exists_node_of_withFolder {e : FileError} (h : (w.withFolder path).1 = .error e)
    (hpresent : e.fault = .present) : ∃ place node,
      (w.withFolder path).2.place path = .ok place ∧
        (w.withFolder path).2.tree.node? place = some node := by
  unfold withFolder makeFolder at h ⊢
  cases hplace : w.place path with
  | error fault =>
    simp only [hplace] at h
    cases h
    unfold Workspace.place at hplace
    split at hplace
    · cases hplace
      cases hpresent
    · obtain rfl : fault = .present := hpresent
      exact absurd hplace (follow_ne_present _ _ _)
  | ok place =>
    simp only [hplace] at h ⊢
    cases hnode : w.tree.node? place with
    | none =>
      simp only [hnode] at h
      cases h
    | some node =>
      simp only [hnode] at h ⊢
      split at h
      · cases h
      · next hmade =>
        split at hmade
        · cases hmade
        · exact ⟨place, node, hplace, hnode⟩

theorem exists_node_of_makeFolders {e : FileError} (h : (w.makeFolders path).1 = .error e)
    (hpresent : e.fault = .present) : ∃ place node,
      (w.makeFolders path).2.place path = .ok place ∧
        (w.makeFolders path).2.tree.node? place = some node := by
  revert h
  fun_cases makeFolders w path with
  | case1 hparent => exact fun h => exists_node_of_withFolder h hpresent
  | case2 parent name hparent hthere => exact fun h => exists_node_of_withFolder h hpresent
  | case3 parent hthere w' hmade hparent => exact fun h => by cases h
  | case4 parent name hparent hthere w' hmade hname =>
    exact fun h => exists_node_of_withFolder h hpresent
  | case5 parent name hparent hthere e' w' hmade hfault =>
    intro h
    cases h
    exact absurd hpresent hfault
  | case6 parent hthere e' w' hmade hfault hparent => exact fun h => by cases h
  | case7 parent name hparent hthere e' w' hmade hfault hname =>
    exact fun h => exists_node_of_withFolder h hpresent

/-- What stands at the place of the folder above a path is found by its path. -/
theorem isPresent_parent {node : FileNode} (h : Path.parent? path = some (parent, name))
    (hplace : w.place parent = .ok place) (hnode : w.tree.node? place = some node) :
    w.isPresent parent = true := by
  refine isPresent_iff.mpr ⟨place, node, find_eq_ok.mpr ⟨hplace, hnode, ?_⟩⟩
  cases hslash : Path.endsInSlash parent with
  | false => exact .inr rfl
  | true =>
    -- The path of a folder above ends in a slash only if it is the root.
    have hnames := Path.names_of_parent_endsInSlash h hslash
    have hne := ne_empty_of_place hplace
    have habsolute : Path.isAbsolute parent = true := by
      by_contra hrelative
      exact Path.names_ne_nil hne (Bool.eq_false_iff.mpr hrelative) hnames
    rw [Workspace.place, if_neg hne, hnames, habsolute, if_pos rfl] at hplace
    cases hplace
    rw [FileTree.node?_root] at hnode
    exact .inl (Option.some.inj hnode).symm

/-- An attempt to make folders that is stuck: it fails, and changes nothing. -/
def Stuck (w : Workspace) (path : String) : Prop := ∃ e, w.makeFolders path = (.error e, w)

/-- Folders cannot be made where the last one cannot, and none can above that are missing. -/
theorem stuck_of_withFolder {e : FileError} (h : Path.parent? path = some (parent, name))
    (hparent : w.isFolder parent = false → w.Stuck parent)
    (hself : w.withFolder path = (.error e, w)) : w.Stuck path := by
  cases hpresent : w.isPresent parent with
  | true => exact ⟨e, (makeFolders_of_isPresent h hpresent).trans hself⟩
  | false =>
    rw [Bool.eq_false_iff] at hpresent
    obtain ⟨e', hstuck⟩ := hparent (Bool.eq_false_iff.mpr (mt isPresent_of_isFolder hpresent))
    -- Had something been present above, it would have been found by its path.
    have hfault : e'.fault ≠ .present := by
      intro hfault
      obtain ⟨place, node, hplace, hnode⟩ :=
        exists_node_of_makeFolders (congrArg Prod.fst hstuck) hfault
      rw [hstuck] at hplace hnode
      exact hpresent (isPresent_parent h hplace hnode)
    refine ⟨e', ?_⟩
    rw [makeFolders]
    split
    · next hnone => cases h.symm.trans hnone
    · next hparent' =>
      cases h.symm.trans hparent'
      rw [if_neg hpresent, hstuck]
      exact if_pos hfault

theorem stuck_of_parent (h : Path.parent? path = some (parent, name))
    (habove : w.isFolder parent = false) (hparent : w.Stuck parent) : w.Stuck path := by
  obtain ⟨e, hself⟩ := withFolder_of_parent h habove
  exact stuck_of_withFolder h (fun _ => hparent) hself

/-- An attempt that ends with the last folder has made that, or has failed there and is stuck. -/
theorem withFolder_again (hstuck : ∀ e, w.withFolder path = (.error e, w) → w.Stuck path) :
    (∀ e, (w.withFolder path).1 = .error e → (w.withFolder path).2.isFolder path = false) ∧
      ((w.withFolder path).2.isFolder path = false → (w.withFolder path).2.Stuck path) := by
  rcases w.withFolder_cases path with ⟨e, hfail, hfolder⟩ | ⟨hok, hthere⟩
  · rw [hfail]
    exact ⟨fun _ _ => hfolder, fun _ => hstuck e hfail⟩
  · exact ⟨fun e hfail => (by cases hok.symm.trans hfail),
      fun hfolder => (by cases hthere.symm.trans hfolder)⟩

/-- An attempt to make folders that fails leaves no folder, and where there is none behind an
attempt, any further one is stuck. -/
theorem makeFolders_again (w : Workspace) (path : String) :
    (∀ e, (w.makeFolders path).1 = .error e → (w.makeFolders path).2.isFolder path = false) ∧
      ((w.makeFolders path).2.isFolder path = false → (w.makeFolders path).2.Stuck path) := by
  -- By the attempts for the folders above; a dot behind them asks for no folder of its own.
  fun_induction makeFolders w path with
  | case1 path hparent =>
    exact withFolder_again fun e hfail => ⟨e, (makeFolders_of_none hparent).trans hfail⟩
  | case2 path parent name hparent hpresent =>
    exact withFolder_again fun e hfail =>
      ⟨e, (makeFolders_of_isPresent hparent hpresent).trans hfail⟩
  | case3 path parent hpresent w' hmade hparent ih =>
    rw [hmade] at ih
    refine ⟨fun _ h => (by cases h), fun hfolder => ?_⟩
    have habove : w'.isFolder parent = false :=
      Bool.eq_false_iff.mpr fun habove => by
        cases (isFolder_of_dot hparent habove).symm.trans hfolder
    exact stuck_of_parent hparent habove (ih.2 habove)
  | case4 path parent name hparent hpresent w' hmade hname ih =>
    rw [hmade] at ih
    exact withFolder_again fun e => stuck_of_withFolder hparent ih.2
  | case5 path parent name hparent hpresent e w' hmade hfault ih =>
    rw [hmade] at ih
    have habove := ih.1 e rfl
    exact ⟨fun _ _ => isFolder_eq_false_of_parent hparent habove,
      fun _ => stuck_of_parent hparent habove (ih.2 habove)⟩
  | case6 path parent hpresent e w' hmade hfault hparent ih =>
    rw [hmade] at ih
    have habove := ih.1 e rfl
    exact ⟨fun _ h => (by cases h), fun _ => stuck_of_parent hparent habove (ih.2 habove)⟩
  | case7 path parent name hparent hpresent e w' hmade hfault hname ih =>
    rw [hmade] at ih
    exact withFolder_again fun e => stuck_of_withFolder hparent ih.2

end DeclGen.Workspace
