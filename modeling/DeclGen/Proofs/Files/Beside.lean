import DeclGen.Proofs.Files.Stability

/-!
Declaration files beside their schemas. Out of folders, two schema files have one declaration file
only if they stand side by side, one is named by dots and the extension alone, and the other has
the extension once more: the extension of the first is taken for a part of its stem.
-/

namespace DeclGen

def AllDots (text : String) : Prop := ∀ c ∈ text.toList, c = '.'

instance (text : String) : Decidable (AllDots text) :=
  List.decidableBAll (fun c => c = '.') text.toList

theorem isSchemaName_iff {name : String} :
    isSchemaName name = true ↔ ∃ front, name = front ++ schemaSuffix := by
  rw [isSchemaName, List.isSuffixOf_iff_suffix]
  constructor
  · rintro ⟨cs, hcs⟩
    exact ⟨String.ofList cs, String.toList_injective (by simp [← hcs])⟩
  · rintro ⟨front, rfl⟩
    exact ⟨front.toList, (String.toList_append).symm⟩

namespace Path

theorem dropExtension_append {cs extension : List Char} (h : '.' ∉ extension) :
    dropExtension (cs ++ '.' :: extension) = cs := by
  have hstop : ∀ c ∈ extension.reverse, (c != '.') = true := by
    intro c hc
    rw [bne_iff_ne]
    rintro rfl
    exact h (List.mem_reverse.mp hc)
  have hdot : (cs ++ '.' :: extension).contains '.' = true := by simp
  rw [dropExtension, if_pos hdot, List.reverse_append, List.reverse_cons, List.append_assoc,
    List.dropWhile_append_of_pos hstop]
  simp

/-- A schema file has its extension dropped, unless nothing but dots stands before it. -/
theorem stem_append_schemaSuffix (front : String) :
    stem (front ++ schemaSuffix) = if AllDots front then front ++ schemaSuffix else front := by
  have hchars : (front ++ schemaSuffix).toList = front.toList ++ '.' :: ['x', 'm', 'l'] :=
    String.toList_append
  apply String.toList_injective
  rw [stem, String.toList_ofList, hchars]
  split
  · next hdots =>
    have hall : ∀ c ∈ front.toList ++ ['.'], (c == '.') = true := by
      simpa [AllDots, or_imp, forall_and] using hdots
    rw [hchars, List.append_cons, List.takeWhile_append_of_pos hall,
      List.dropWhile_append_of_pos hall]
    simp [dropExtension]
  · next hdots =>
    -- The first other character stands before the extension, so the last dot is that of the latter.
    have hrest : front.toList.dropWhile (· == '.') ≠ [] := fun hnone =>
      hdots fun c hc => beq_iff_eq.mp (List.dropWhile_eq_nil_iff.mp hnone c hc)
    have hlength : (front.toList.takeWhile (· == '.')).length ≠ front.toList.length := by
      have hboth := congrArg List.length
        (List.takeWhile_append_dropWhile (p := (· == '.')) (l := front.toList))
      have hpos := List.length_pos_iff.mpr hrest
      rw [List.length_append] at hboth
      omega
    rw [List.takeWhile_append, if_neg hlength, List.dropWhile_append,
      if_neg (by simpa using hrest), dropExtension_append (by decide),
      List.takeWhile_append_dropWhile]

end Path

/-- Schema files that share a stem: one is dots and the extension, and the other has the extension
once more. -/
def SharesStem (name other : String) : Prop :=
  ∃ dots, AllDots dots ∧ name = dots ++ schemaSuffix ∧ other = dots ++ schemaSuffix ++ schemaSuffix

theorem not_allDots_append_schemaSuffix (front : String) : ¬ AllDots (front ++ schemaSuffix) := by
  intro h
  have hmem : 'x' ∈ (front ++ schemaSuffix).toList := by
    rw [String.toList_append]
    exact List.mem_append_right _ (by decide)
  exact absurd (h 'x' hmem) (by decide)

/-- Two schema files have one stem only if they are one, or share it. -/
theorem stem_eq_stem_iff {name other : String} (hname : isSchemaName name = true)
    (hother : isSchemaName other = true) (hne : name ≠ other) :
    Path.stem name = Path.stem other ↔ SharesStem name other ∨ SharesStem other name := by
  obtain ⟨front, rfl⟩ := isSchemaName_iff.mp hname
  obtain ⟨front', rfl⟩ := isSchemaName_iff.mp hother
  have hshares (x y : String) : SharesStem (x ++ schemaSuffix) (y ++ schemaSuffix) ↔
      AllDots x ∧ y = x ++ schemaSuffix := by
    simp [SharesStem]
  rw [Path.stem_append_schemaSuffix, Path.stem_append_schemaSuffix, hshares, hshares]
  constructor
  · intro h
    split at h
    · next hdots =>
      split at h
      · exact absurd h hne
      · exact .inl ⟨hdots, h.symm⟩
    · split at h
      · next hdots => exact .inr ⟨hdots, h⟩
      · exact absurd (congrArg (· ++ schemaSuffix) h) hne
  · rintro (⟨hdots, rfl⟩ | ⟨hdots, rfl⟩)
    · rw [if_pos hdots, if_neg (not_allDots_append_schemaSuffix front)]
    · rw [if_neg (not_allDots_append_schemaSuffix front'), if_pos hdots]

namespace Path

theorem fileName_ne_empty {path : String} (hne : path ≠ "") (h : endsInSlash path = false) :
    fileName path ≠ "" := by
  intro hempty
  have hlast : (divide path.toList).2 = [] := by simpa [fileName] using hempty
  have hpath := divide_append path.toList
  rw [hlast, List.append_nil] at hpath
  rcases divide_fst_cases path.toList with hnone | ⟨start, hstart⟩
  · rw [hnone] at hpath
    exact hne (by simpa using hpath.symm)
  · rw [hstart] at hpath
    simp [endsInSlash, ← hpath] at h

theorem join_empty (path : String) : join "" path = path := by
  unfold join
  split
  · rfl
  · exact String.empty_append

/-- Without a folder part a path is a name. -/
theorem isAbsolute_of_directory_empty {path : String} (h : directory path = "") :
    isAbsolute path = false := by
  have hnone : (divide path.toList).1 = [] := by
    by_contra hne
    exact trimSlashes_ne_nil hne (by simpa [directory] using h)
  have hname : fileName path = path := by
    have hpath := divide_append path.toList
    rw [hnone, List.nil_append] at hpath
    rw [fileName, hpath, String.ofList_toList]
  exact isAbsolute_eq_false_of_noSlash (hname ▸ noSlash_fileName path)

end Path

theorem isAbsolute_outputPath_beside (path : String) :
    Path.isAbsolute (outputPath path "") = Path.isAbsolute path := by
  change Path.isAbsolute (Path.join (Path.directory path) (declarationName path)) = _
  by_cases hfolder : Path.directory path = ""
  · rw [hfolder, Path.join_empty, isAbsolute_declarationName,
      Path.isAbsolute_of_directory_empty hfolder]
  · rw [Path.isAbsolute_join hfolder (isAbsolute_declarationName path),
      Path.isAbsolute_directory hfolder]

/-- A declaration file beside its schema goes through the same names, but for the last one. -/
theorem names_outputPath_beside (path : String) : Path.names (outputPath path "") =
    Path.names (Path.directory path) ++ [declarationName path] := by
  rw [← Path.names_of_proper (isProperName_declarationName path)]
  exact Path.names_join (Path.directory path) (isAbsolute_declarationName path)

namespace Workspace

variable {w : Workspace} {path : String} {place : Location} {bytes : List UInt8}

/-- The name of a file is a proper one: the others lead from folders to folders. -/
theorem isProperName_of_follow {above : Location} {name : String} (hw : w.tree.WellFormed)
    (hfollow : w.tree.follow above [name] = .ok place)
    (hnode : w.tree.node? place = some (.file bytes)) (hne : name ≠ "")
    (hslash : '/' ∉ name.toList) : IsProperName name := by
  have habove := FileTree.folder_of_follow_cons hfollow
  refine ⟨hne, hslash, ?_, ?_⟩
  · rintro rfl
    simp only [FileTree.follow, habove, ↓reduceIte, Except.ok.injEq] at hfollow
    rw [← hfollow, habove] at hnode
    cases hnode
  · rintro rfl
    have hup : w.tree.node? above.dropLast = some .folder := by
      by_cases hroot : above = []
      · rw [hroot]
        exact FileTree.node?_root w.tree
      · exact (hw.rooted _ (FileTree.mem_of_node? hroot habove)).2
    simp only [FileTree.follow, habove, String.reduceEq, ↓reduceIte, Except.ok.injEq] at hfollow
    rw [← hfollow, hup] at hnode
    cases hnode

/-- The last name on the path of a file is the name of the file, and its declaration file lies in
the same folder. -/
theorem place_outputPath_beside (hw : w.tree.WellFormed)
    (h : w.find path = .ok (place, .file bytes)) : ∃ above,
      place = above ++ [Path.fileName path] ∧
        w.place (outputPath path "") = .ok (above ++ [declarationName path]) := by
  obtain ⟨hplace, hnode, hslash⟩ := find_eq_ok.mp h
  have hne := ne_empty_of_place hplace
  have hname : Path.fileName path ≠ "" := Path.fileName_ne_empty hne (by simpa using hslash)
  have hout : outputPath path "" ≠ "" := by
    intro hempty
    have hnames := names_outputPath_beside path
    rw [hempty, Path.names_empty] at hnames
    simp at hnames
  rw [Workspace.place, if_neg hne, Path.names_directory_append,
    Path.names_of_noSlash hname (Path.noSlash_fileName path), FileTree.follow_append] at hplace
  rw [Workspace.place, if_neg hout, isAbsolute_outputPath_beside, names_outputPath_beside,
    FileTree.follow_append]
  cases hfolder : w.tree.follow (if Path.isAbsolute path then [] else w.home)
      (Path.names (Path.directory path)) with
  | error fault =>
    rw [hfolder] at hplace
    cases hplace
  | ok above =>
    rw [hfolder] at hplace
    change w.tree.follow above [Path.fileName path] = .ok place at hplace
    have habove := FileTree.folder_of_follow_cons hplace
    have hproper : IsProperName (Path.fileName path) :=
      isProperName_of_follow hw hplace hnode hname (Path.noSlash_fileName path)
    rw [FileTree.follow_proper habove hproper] at hplace
    cases hplace
    refine ⟨above, rfl, ?_⟩
    change w.tree.follow above [declarationName path] = _
    rw [FileTree.follow_proper habove (isProperName_declarationName path), FileTree.follow]

/-- A path leads to a schema file, and its declaration file has a place beside it. -/
structure DeclaredBeside (w : Workspace) (path : String) (schema declarations : Location) :
    Prop where
  schema : ∃ bytes, w.find path = .ok (schema, .file bytes)
  declarations : w.place (outputPath path "") = .ok declarations

/-- Schema files in one folder that share a stem. -/
def SharesStemAt (place other : Location) : Prop :=
  ∃ above name name', place = above ++ [name] ∧ other = above ++ [name'] ∧ SharesStem name name'

variable {other : String} {place' out out' : Location}

theorem DeclaredBeside.split (hw : w.tree.WellFormed) (h : w.DeclaredBeside path place out) :
    ∃ above, place = above ++ [Path.fileName path] ∧ out = above ++ [declarationName path] := by
  obtain ⟨bytes, hfind⟩ := h.schema
  obtain ⟨above, hplace, hout⟩ := place_outputPath_beside hw hfind
  exact ⟨above, hplace, Except.ok.inj (h.declarations.symm.trans hout)⟩

theorem sharesStemAt_append {above above' : Location} {name name' : String} :
    SharesStemAt (above ++ [name]) (above' ++ [name']) ↔
      above = above' ∧ SharesStem name name' := by
  constructor
  · rintro ⟨_, _, _, hplace, hother, hshares⟩
    obtain ⟨rfl, rfl⟩ := List.append_singleton_inj.mp hplace
    obtain ⟨rfl, rfl⟩ := List.append_singleton_inj.mp hother
    exact ⟨rfl, hshares⟩
  · rintro ⟨rfl, hshares⟩
    exact ⟨above, name, name', rfl, rfl, hshares⟩

/-- Different schema files have one declaration file only if they share a stem. -/
theorem DeclaredBeside.eq_iff (hw : w.tree.WellFormed) (h : w.DeclaredBeside path place out)
    (h' : w.DeclaredBeside other place' out') (hschema : IsSchemaPlace place)
    (hschema' : IsSchemaPlace place') (hne : place ≠ place') :
    out = out' ↔ SharesStemAt place place' ∨ SharesStemAt place' place := by
  obtain ⟨above, rfl, rfl⟩ := h.split hw
  obtain ⟨above', rfl, rfl⟩ := h'.split hw
  have hname : isSchemaName (Path.fileName path) = true := by simpa [IsSchemaPlace] using hschema
  have hname' : isSchemaName (Path.fileName other) = true := by
    simpa [IsSchemaPlace] using hschema'
  have hout : above ++ [declarationName path] = above' ++ [declarationName other] ↔
      above = above' ∧ Path.stem (Path.fileName path) = Path.stem (Path.fileName other) := by
    rw [List.append_singleton_inj, declarationName, declarationName, String.append_left_inj]
  rw [sharesStemAt_append, sharesStemAt_append, hout]
  constructor
  · rintro ⟨rfl, hstem⟩
    have hnames : Path.fileName path ≠ Path.fileName other := fun heq => hne (by rw [heq])
    rcases (stem_eq_stem_iff hname hname' hnames).mp hstem with hshares | hshares
    · exact .inl ⟨rfl, hshares⟩
    · exact .inr ⟨rfl, hshares⟩
  · rintro (⟨rfl, hshares⟩ | ⟨rfl, hshares⟩)
    · have hnames : Path.fileName path ≠ Path.fileName other := fun heq => hne (by rw [heq])
      exact ⟨rfl, (stem_eq_stem_iff hname hname' hnames).mpr (.inl hshares)⟩
    · have hnames : Path.fileName path ≠ Path.fileName other := fun heq => hne (by rw [heq])
      exact ⟨rfl, (stem_eq_stem_iff hname hname' hnames).mpr (.inr hshares)⟩

variable {paths : List String} {root : String}

/-- Out of folders, every collected path leads to a schema file with a declaration file beside it.
Two schema files have one declaration file if and only if they share a stem, and no declaration file
is a schema file that is collected. -/
theorem declarations_shared_iff (hw : w.tree.WellFormed) (excludes : List String)
    (recursive : Bool)
    (hfolders : ∀ argument ∈ paths, w.isFolder (Path.join root argument) = true) :
    (∀ p ∈ w.collect paths excludes recursive root, ∃ place out, w.DeclaredBeside p place out) ∧
    ∀ p ∈ w.collect paths excludes recursive root, ∀ q ∈ w.collect paths excludes recursive root,
      ∀ place out place' out', w.DeclaredBeside p place out → w.DeclaredBeside q place' out' →
        (place ≠ place' → (out = out' ↔ SharesStemAt place place' ∨ SharesStemAt place' place)) ∧
          out ≠ place' := by
  have hschema : ∀ p ∈ w.collect paths excludes recursive root, ∀ place out,
      w.DeclaredBeside p place out → IsSchemaPlace place := by
    intro p hp place out hbeside
    obtain ⟨place', bytes, hfind, hschema⟩ := leadsToSchema_of_mem_collect hw hfolders hp
    obtain ⟨bytes', hfind'⟩ := hbeside.schema
    cases hfind.symm.trans hfind'
    exact hschema
  constructor
  · intro p hp
    obtain ⟨place, bytes, hfind, _⟩ := leadsToSchema_of_mem_collect hw hfolders hp
    obtain ⟨above, _, hout⟩ := place_outputPath_beside hw hfind
    exact ⟨place, _, ⟨bytes, hfind⟩, hout⟩
  · intro p hp q hq place out place' out' h h'
    have hplace := hschema p hp place out h
    have hplace' := hschema q hq place' out' h'
    refine ⟨h.eq_iff hw h' hplace hplace', ?_⟩
    rintro rfl
    exact hplace'.not_isDeclarationPlace (isDeclarationPlace_of_place h.declarations)

/-- A folder with schema files of which two share a stem. -/
def hidden : Workspace :=
  ⟨⟨[(["d"], .folder), (["d", ".xml"], .file []), (["d", ".xml.xml"], .file []),
    (["d", "a.xml"], .file [])]⟩, []⟩

theorem wellFormed_hidden : hidden.tree.WellFormed := by
  decide

theorem collect_hidden :
    hidden.collect ["d"] [] true "/" = ["/d/.xml", "/d/.xml.xml", "/d/a.xml"] := by
  decide +kernel

theorem declaredBeside_hidden :
    hidden.DeclaredBeside "/d/.xml" ["d", ".xml"] ["d", ".xml.d.ts"] ∧
    hidden.DeclaredBeside "/d/.xml.xml" ["d", ".xml.xml"] ["d", ".xml.d.ts"] ∧
    hidden.DeclaredBeside "/d/a.xml" ["d", "a.xml"] ["d", "a.d.ts"] :=
  ⟨⟨⟨[], by decide +kernel⟩, by decide +kernel⟩, ⟨⟨[], by decide +kernel⟩, by decide +kernel⟩,
    ⟨[], by decide +kernel⟩, by decide +kernel⟩

theorem hidden_shares_stem : hidden.tree.WellFormed ∧
    (∀ argument ∈ ["d"], hidden.isFolder (Path.join "/" argument) = true) ∧
    (SharesStemAt ["d", ".xml"] ["d", ".xml.xml"] ∨
      SharesStemAt ["d", ".xml.xml"] ["d", ".xml"]) ∧
    ¬ (SharesStemAt ["d", "a.xml"] ["d", ".xml"] ∨ SharesStemAt ["d", ".xml"] ["d", "a.xml"]) := by
  have hfolders : ∀ argument ∈ ["d"], hidden.isFolder (Path.join "/" argument) = true := by
    decide +kernel
  have hshared := (declarations_shared_iff wellFormed_hidden [] true hfolders).2
  rw [collect_hidden] at hshared
  obtain ⟨hbare, htwice, hnamed⟩ := declaredBeside_hidden
  refine ⟨wellFormed_hidden, hfolders, ?_, ?_⟩
  · exact ((hshared _ (by simp) _ (by simp) _ _ _ _ hbare htwice).1 (by decide)).mp rfl
  · intro hnone
    exact absurd (((hshared _ (by simp) _ (by simp) _ _ _ _ hnamed hbare).1 (by decide)).mpr hnone)
      (by decide)

/-- Two collected schema files have one declaration file. -/
theorem declarations_of_hidden_shared : ¬ ∀ (w : Workspace) (paths excludes : List String)
    (recursive : Bool) (root : String), w.tree.WellFormed →
    (∀ argument ∈ paths, w.isFolder (Path.join root argument) = true) →
    ∀ p ∈ w.collect paths excludes recursive root, ∀ q ∈ w.collect paths excludes recursive root,
      ∀ place out place' out', w.DeclaredBeside p place out → w.DeclaredBeside q place' out' →
        place ≠ place' → out ≠ out' := by
  intro h
  obtain ⟨hbare, htwice, -⟩ := declaredBeside_hidden
  exact h hidden ["d"] [] true "/" wellFormed_hidden (by decide +kernel)
    "/d/.xml" (by rw [collect_hidden]; decide) "/d/.xml.xml" (by rw [collect_hidden]; decide)
    _ _ _ _ hbare htwice (by decide) rfl

end Workspace

end DeclGen
