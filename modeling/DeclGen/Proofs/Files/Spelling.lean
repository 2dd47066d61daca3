import DeclGen.Proofs.Files.Collection

/-!
Spellings of paths. Paths are compared as texts, so an excluding pattern takes away a file only
under the spelling that it yields itself. Where all arguments are spelled plainly so is every path
that is found, and a file has one plain spelling only.
-/

namespace DeclGen

namespace Path

/-- A path from the root without the names `.` and `..`, and without a slash behind a slash. -/
def IsPlain (path : String) : Prop :=
  isAbsolute path = true ∧ (∀ name ∈ names path, name ≠ "." ∧ name ≠ "..") ∧
    ¬ ['/', '/'] <:+: path.toList

instance (path : String) : Decidable (IsPlain path) :=
  inferInstanceAs (Decidable (_ ∧ _ ∧ _))

/-- Names with a slash behind each. -/
def slashed : List String → String
  | [] => ""
  | name :: rest => name ++ "/" ++ slashed rest

/-- The path from the root through names. -/
def rooted (names : List String) : String := "/" ++ "/".intercalate names

/-- A path is the text of a folder, with a slash at the end, and then a name or nothing. -/
structure Spells (above : List String) (last path : String) : Prop where
  proper : ∀ name ∈ above, IsProperName name
  proper_last : last = "" ∨ IsProperName last
  eq : path = "/" ++ slashed above ++ last

variable {above : List String} {last path : String}

theorem Spells.noSlash_last (h : Spells above last path) : '/' ∉ last.toList := by
  rcases h.proper_last with rfl | hlast
  · decide
  · exact hlast.2.1

theorem slashed_append (xs ys : List String) : slashed (xs ++ ys) = slashed xs ++ slashed ys := by
  induction xs with
  | nil => rw [List.nil_append, slashed, String.empty_append]
  | cons x xs ih => simp only [List.cons_append, slashed, ih, String.append_assoc]

theorem slashed_concat (xs : List String) (x : String) :
    slashed (xs ++ [x]) = slashed xs ++ x ++ "/" := by
  rw [slashed_append, slashed, slashed, String.append_empty, String.append_assoc]

theorem intercalate_concat (xs : List String) (x : String) :
    "/".intercalate (xs ++ [x]) = slashed xs ++ x := by
  induction xs with
  | nil => rw [List.nil_append, String.intercalate_singleton, slashed, String.empty_append]
  | cons y xs ih =>
    rw [List.cons_append, String.intercalate_cons_of_ne_nil (by simp), ih, slashed]
    simp only [String.append_assoc]

theorem rooted_concat (xs : List String) (x : String) :
    rooted (xs ++ [x]) = "/" ++ slashed xs ++ x := by
  rw [rooted, intercalate_concat, String.append_assoc]

theorem toList_slashed (xs : List String) :
    (slashed xs).toList = xs.flatMap fun x => x.toList ++ ['/'] := by
  induction xs with
  | nil => rfl
  | cons x xs ih => simp [slashed, ih]

theorem names_slashed_append (h : ∀ name ∈ above, name ≠ "" ∧ '/' ∉ name.toList) (path : String) :
    names (slashed above ++ path) = above ++ names path := by
  induction above with
  | nil => rw [slashed, String.empty_append, List.nil_append]
  | cons name rest ih =>
    obtain ⟨hne, hslash⟩ := h name List.mem_cons_self
    rw [slashed, String.append_assoc, names_append_slash, names_of_noSlash hne hslash,
      ih fun next hnext => h next (List.mem_cons_of_mem _ hnext), List.singleton_append,
      List.cons_append]

theorem names_slash_append (path : String) : names ("/" ++ path) = names path := by
  have h := names_append_slash "" path
  rwa [String.empty_append, names_empty, List.nil_append] at h

theorem Spells.names_eq (h : Spells above last path) :
    names path = if last = "" then above else above ++ [last] := by
  rw [h.eq, String.append_assoc, names_slash_append,
    names_slashed_append fun name hname => ⟨(h.proper name hname).1, (h.proper name hname).2.1⟩]
  rcases h.proper_last with rfl | hlast
  · rw [names_empty, List.append_nil, if_pos rfl]
  · rw [names_of_proper hlast, if_neg hlast.1]

theorem Spells.proper_names (h : Spells above last path) :
    ∀ name ∈ names path, IsProperName name := by
  intro name hname
  rw [h.names_eq] at hname
  rcases h.proper_last with rfl | hlast
  · exact h.proper name (by simpa using hname)
  · rw [if_neg hlast.1, List.mem_append, List.mem_singleton] at hname
    rcases hname with habove | rfl
    · exact h.proper name habove
    · exact hlast

theorem endsInSlash_slashed (above : List String) :
    endsInSlash ("/" ++ slashed above) = true := by
  rcases List.eq_nil_or_concat above with rfl | ⟨init, name, rfl⟩
  · decide
  · rw [List.concat_eq_append, slashed_concat, ← String.append_assoc]
    exact endsInSlash_append _ (by decide)

theorem Spells.endsInSlash_eq (h : Spells above last path) :
    endsInSlash path = decide (last = "") := by
  rw [h.eq]
  rcases h.proper_last with rfl | hlast
  · rw [String.append_empty, endsInSlash_slashed, decide_eq_true rfl]
  · rw [endsInSlash_append _ hlast.1, endsInSlash_eq_false_of_noSlash hlast.2.1,
      decide_eq_false hlast.1]

theorem Spells.isAbsolute_eq (h : Spells above last path) : isAbsolute path = true := by
  rw [h.eq, String.append_assoc]
  exact isAbsolute_append _ (by decide)

/-- Names and the slash at the end tell a plainly spelled path. -/
theorem Spells.eq_of_names_eq {above' : List String} {last' path' : String}
    (h : Spells above last path) (h' : Spells above' last' path')
    (hnames : names path = names path') (hslash : endsInSlash path = endsInSlash path') :
    path = path' := by
  rw [h.endsInSlash_eq, h'.endsInSlash_eq, decide_eq_decide] at hslash
  rw [h.names_eq, h'.names_eq] at hnames
  rw [h.eq, h'.eq]
  by_cases hlast : last = ""
  · have hlast' := hslash.mp hlast
    rw [if_pos hlast, if_pos hlast'] at hnames
    rw [hnames, hlast, hlast']
  · have hlast' := mt hslash.mpr hlast
    rw [if_neg hlast, if_neg hlast'] at hnames
    obtain ⟨rfl, rfl⟩ : above = above' ∧ last = last' := by simpa using hnames
    rfl

/-- What follows a slash is names with a slash behind each, and a rest. -/
theorem exists_slashed_append (cs : List Char) (h : ¬ ['/', '/'] <:+: '/' :: cs) :
    ∃ above last, (∀ name ∈ above, name ≠ "" ∧ '/' ∉ name.toList) ∧ '/' ∉ last.toList ∧
      String.ofList cs = slashed above ++ last := by
  have hsplit := List.takeWhile_append_dropWhile (p := (· != '/')) (l := cs)
  have hname : '/' ∉ cs.takeWhile (· != '/') := fun hmem => by
    simpa using List.mem_takeWhile_imp hmem
  cases hrest : cs.dropWhile (· != '/') with
  | nil =>
    rw [hrest, List.append_nil] at hsplit
    refine ⟨[], String.ofList cs, by simp, ?_, by rw [slashed, String.empty_append]⟩
    rwa [String.toList_ofList, ← hsplit]
  | cons slash rest =>
    have hslash : slash = '/' := by
      have hhead := List.head_dropWhile_not (· != '/') (l := cs) (by simp [hrest])
      simpa [hrest] using hhead
    subst hslash
    have hlength : rest.length < cs.length := by
      have := congrArg List.length hsplit
      simp only [hrest, List.length_append, List.length_cons] at this
      omega
    rw [hrest] at hsplit
    have hinside : '/' :: rest <:+: cs := ⟨_, [], by rw [List.append_nil, hsplit]⟩
    obtain ⟨above, last, habove, hlast, hcs⟩ := exists_slashed_append rest fun hdouble =>
      h (hdouble.trans (hinside.trans (List.suffix_cons '/' cs).isInfix))
    refine ⟨String.ofList (cs.takeWhile (· != '/')) :: above, last, ?_, hlast, ?_⟩
    · refine List.forall_mem_cons.mpr ⟨⟨?_, by rwa [String.toList_ofList]⟩, habove⟩
      -- A first name without characters would put two slashes behind each other.
      intro hempty
      have hnone : cs.takeWhile (· != '/') = [] := by simpa using congrArg String.toList hempty
      rw [hnone, List.nil_append] at hsplit
      exact h ⟨[], rest, by rw [← hsplit]; rfl⟩
    · rw [slashed, String.append_assoc, ← hcs]
      exact String.toList_injective (by simpa using hsplit.symm)
termination_by cs.length

/-- A plain path spells its names. -/
theorem IsPlain.exists_spells (h : IsPlain path) : ∃ above last, Spells above last path := by
  obtain ⟨habsolute, hnames, hdouble⟩ := h
  cases hcs : path.toList with
  | nil => simp [isAbsolute, hcs] at habsolute
  | cons c cs =>
    obtain rfl : c = '/' := by simpa [isAbsolute, hcs] using habsolute
    rw [hcs] at hdouble
    obtain ⟨above, last, habove, hlast, htext⟩ := exists_slashed_append cs hdouble
    have hpath : path = "/" ++ slashed above ++ last := by
      rw [String.append_assoc, ← htext]
      exact String.toList_injective (by simp [hcs])
    rw [hpath, String.append_assoc, names_slash_append, names_slashed_append habove] at hnames
    refine ⟨above, last, fun name hname => ?_, ?_, hpath⟩
    · exact ⟨(habove name hname).1, (habove name hname).2,
        hnames name (List.mem_append_left _ hname)⟩
    · by_cases hempty : last = ""
      · exact .inl hempty
      · refine .inr ⟨hempty, hlast, hnames last (List.mem_append_right _ ?_)⟩
        rw [names_of_noSlash hempty hlast]
        exact List.mem_singleton_self last

theorem double_of_append {xs ys : List Char} (hxs : '/' ∉ xs)
    (h : ['/', '/'] <:+: xs ++ ys) : ['/', '/'] <:+: ys := by
  induction xs with
  | nil => exact h
  | cons x xs ih =>
    rw [List.mem_cons, not_or] at hxs
    rcases List.infix_cons_iff.mp h with hstart | hrest
    · exact absurd (List.cons_prefix_cons.mp hstart).1 hxs.1
    · exact ih hxs.2 hrest

/-- Proper names never put a slash behind a slash. -/
theorem noDouble_slashed (h : ∀ name ∈ above, IsProperName name) (hlast : '/' ∉ last.toList) :
    ¬ ['/', '/'] <:+: '/' :: (slashed above ++ last).toList := by
  -- The second slash of a pair in front would begin the text behind it.
  have hcons : ∀ {cs : List Char}, (∀ rest, cs ≠ '/' :: rest) → ¬ ['/', '/'] <:+: cs →
      ¬ ['/', '/'] <:+: '/' :: cs := by
    intro cs hhead hcs hdouble
    rcases List.infix_cons_iff.mp hdouble with hstart | hrest
    · obtain ⟨rest, hrest⟩ := (List.cons_prefix_cons.mp hstart).2
      exact hhead rest hrest.symm
    · exact hcs hrest
  induction above with
  | nil =>
    refine hcons (fun rest hrest => hlast ?_) fun hdouble => hlast ?_
    · simpa [slashed] using congrArg ('/' ∈ ·) hrest
    · simpa [slashed] using hdouble.mem (List.mem_cons_self)
  | cons name rest ih =>
    obtain ⟨hname, hrest⟩ := List.forall_mem_cons.mp h
    have htext : (slashed (name :: rest) ++ last).toList =
        name.toList ++ '/' :: (slashed rest ++ last).toList := by simp [slashed]
    rw [htext]
    refine hcons (fun behind hbehind => ?_) fun hdouble =>
      ih hrest (double_of_append hname.2.1 hdouble)
    cases hchars : name.toList with
    | nil => exact hname.1 (by simpa using hchars)
    | cons c cs =>
      rw [hchars] at hbehind
      exact hname.2.1 (by rw [hchars, (List.cons.inj hbehind).1]; exact List.mem_cons_self)

/-- What spells proper names is plain. -/
theorem Spells.isPlain (h : Spells above last path) : IsPlain path := by
  refine ⟨h.isAbsolute_eq, fun name hname => ?_, ?_⟩
  · have hproper := h.proper_names name hname
    exact ⟨hproper.2.2.1, hproper.2.2.2⟩
  · have htext : path.toList = '/' :: (slashed above ++ last).toList := by simp [h.eq]
    rw [htext]
    exact noDouble_slashed h.proper h.noSlash_last

/-- A path in a plainly spelled folder is its own text behind the names of the folder. -/
theorem Spells.join_eq (h : Spells above last path) {rest : String}
    (hrest : isAbsolute rest = false) :
    join path rest = "/" ++ slashed (names path) ++ rest := by
  rw [join, if_neg (by simp [hrest]), h.endsInSlash_eq, h.names_eq]
  rcases h.proper_last with rfl | hlast
  · rw [decide_eq_true rfl, Bool.or_true, if_pos rfl, if_pos rfl, h.eq, String.append_empty]
  · have hpath : path ≠ "" := by
      rintro rfl
      cases h.isAbsolute_eq
    rw [decide_eq_false hlast.1, beq_false_of_ne hpath, Bool.or_false, if_neg Bool.false_ne_true,
      if_neg hlast.1, slashed_concat, h.eq]
    simp only [String.append_assoc]

theorem Spells.join_names (h : Spells above last path) {found : List String}
    (hfound : ∀ name ∈ found, IsProperName name) :
    ∃ above' last', Spells above' last' (join path ("/".intercalate found)) := by
  rw [h.join_eq (isAbsolute_intercalate hfound)]
  rcases List.eq_nil_or_concat found with rfl | ⟨init, name, rfl⟩
  · exact ⟨names path, "", h.proper_names, .inl rfl, rfl⟩
  · rw [List.concat_eq_append] at hfound ⊢
    refine ⟨names path ++ init, name, fun n hn => ?_, .inr (hfound name (by simp)), ?_⟩
    · rcases List.mem_append.mp hn with hpath | hinit
      · exact h.proper_names n hpath
      · exact hfound n (List.mem_append_left _ hinit)
    · rw [intercalate_concat, slashed_append]
      simp only [String.append_assoc]

/-- The parts of a path from the root: nothing before the first slash, then its names and its
rest. -/
theorem parts_slashed (habove : ∀ name ∈ above, '/' ∉ name.toList) (hlast : '/' ∉ last.toList) :
    (parts ("/" ++ slashed above ++ last).toList).map String.ofList = "" :: (above ++ [last]) := by
  have hslashed : parts (slashed above ++ last).toList =
      above.map String.toList ++ [last.toList] := by
    induction above with
    | nil => simpa [slashed] using parts_of_noSlash hlast
    | cons name rest ih =>
      have htext : (slashed (name :: rest) ++ last).toList =
          name.toList ++ '/' :: (slashed rest ++ last).toList := by simp [slashed]
      rw [htext, parts_append_slash, parts_of_noSlash (habove name List.mem_cons_self),
        ih fun n hn => habove n (List.mem_cons_of_mem _ hn)]
      rfl
  have htext : ("/" ++ slashed above ++ last).toList =
      [] ++ '/' :: (slashed above ++ last).toList := by simp
  rw [htext, parts_append_slash, hslashed]
  simp [parts]

theorem trimSlashes_slash (cs : List Char) {c : Char} (hc : c ≠ '/') :
    trimSlashes (cs ++ [c, '/']) = cs ++ [c] := by
  have hall : (cs ++ [c, '/']).all (· == '/') = false := by simp [hc]
  simp [trimSlashes, hall, hc]

/-- The slash behind the last name of a folder is dropped, that of the root is not. -/
theorem trimSlashes_slashed (h : ∀ name ∈ above, name ≠ "" ∧ '/' ∉ name.toList) :
    String.ofList (trimSlashes ("/" ++ slashed above).toList) = rooted above := by
  rcases List.eq_nil_or_concat above with rfl | ⟨init, name, rfl⟩
  · decide
  · rw [List.concat_eq_append] at h ⊢
    have hname := h name (by simp)
    obtain ⟨start, c, hchars⟩ := (List.eq_nil_or_concat name.toList).resolve_left
      (by simpa using hname.1)
    rw [List.concat_eq_append] at hchars
    have hc : c ≠ '/' := by
      rintro rfl
      exact hname.2 (by simp [hchars])
    have htext : ("/" ++ slashed (init ++ [name])).toList =
        (("/" ++ slashed init).toList ++ start) ++ [c, '/'] := by
      simp [slashed_concat, hchars]
    rw [htext, trimSlashes_slash _ hc, rooted_concat]
    exact String.toList_injective (by simp [hchars])

theorem exists_spells_rooted (h : ∀ name ∈ above, IsProperName name) :
    ∃ above' last', Spells above' last' (rooted above) := by
  rcases List.eq_nil_or_concat above with rfl | ⟨init, name, rfl⟩
  · exact ⟨[], "", by simp, .inl rfl, by decide⟩
  · rw [List.concat_eq_append] at h ⊢
    exact ⟨init, name, fun n hn => h n (List.mem_append_left _ hn), .inr (h name (by simp)),
      rooted_concat init name⟩

end Path

/-- A pattern from the root is searched below its first names, those without wildcards, for the
others. -/
theorem Glob.ofPattern_slashed {above : List String} {last : String}
    (habove : ∀ name ∈ above, '/' ∉ name.toList) (hlast : '/' ∉ last.toList) :
    Glob.ofPattern ("/" ++ Path.slashed above ++ last) =
      ⟨String.ofList (Path.trimSlashes
        ("/" ++ Path.slashed ((above ++ [last]).takeWhile (!hasWildcard ·))).toList),
      searchNames ((above ++ [last]).dropWhile (!hasWildcard ·))⟩ := by
  have hempty : hasWildcard "" = false := by decide
  simp only [Glob.ofPattern, Path.parts_slashed habove hlast, List.takeWhile_cons,
    List.dropWhile_cons, hempty, Bool.not_false, ↓reduceIte, List.flatMap_cons]
  rw [String.toList_append, Path.toList_slashed]
  rfl

/-- A plain pattern is searched from a plain folder, for proper names or for folders. -/
theorem Glob.spells_base {above : List String} {last pattern : String}
    (h : Path.Spells above last pattern) (hwild : hasWildcard pattern = true) :
    (∃ above' last', Path.Spells above' last' (Glob.ofPattern pattern).base) ∧
      ∀ name ∈ (Glob.ofPattern pattern).names, name = "" ∨ IsProperName name := by
  have hnames := Glob.names_ne_nil hwild
  rw [h.eq, Glob.ofPattern_slashed (fun name hname => (h.proper name hname).2.1) h.noSlash_last]
    at hnames ⊢
  constructor
  · -- Some name has a wildcard, so the fixed names stop before the last one.
    have hbefore : (above ++ [last]).takeWhile (!hasWildcard ·) <+: above := by
      rcases List.prefix_concat_iff.mp (List.takeWhile_prefix (l := above ++ [last])
        (!hasWildcard ·)) with hall | hbefore
      · have hsplit := List.takeWhile_append_dropWhile (p := (!hasWildcard ·))
          (l := above ++ [last])
        rw [hall, List.append_right_eq_self] at hsplit
        rw [hsplit] at hnames
        exact absurd rfl hnames
      · exact hbefore
    have hproper := fun name hname => h.proper name (hbefore.mem hname)
    rw [Path.trimSlashes_slashed fun name hname =>
      ⟨(hproper name hname).1, (hproper name hname).2.1⟩]
    exact Path.exists_spells_rooted hproper
  · intro name hname
    have hmem := (List.dropWhile_suffix _).mem (mem_of_mem_searchNames hname)
    rcases List.mem_append.mp hmem with habove | hlast
    · exact .inr (h.proper name habove)
    · rw [List.mem_singleton.mp hlast]
      exact h.proper_last

namespace Workspace

variable {w : Workspace} {folder path : String}

/-- What is found below a folder is joined from proper names. -/
theorem exists_names_of_mem_searchName {recursive foldersOnly : Bool} {name : String}
    (hw : w.tree.WellFormed) (hname : name = "" ∨ IsProperName name)
    (h : path ∈ w.searchName recursive foldersOnly folder name) :
    ∃ names, (∀ n ∈ names, IsProperName n) ∧ path = "/".intercalate names := by
  rw [mem_searchName] at h
  split_ifs at h with hdeep hwild hempty
  · obtain ⟨_, rfl | ⟨names, node, hmem, _, _, rfl⟩⟩ := mem_deepNames.mp h
    · exact ⟨[], by simp, rfl⟩
    · exact ⟨names, proper_of_mem_below hw hmem, rfl⟩
  · obtain ⟨node, hmem, _⟩ := mem_matchingNames.mp h
    exact ⟨[path], proper_of_mem_below hw (mem_children.mp hmem),
      (String.intercalate_singleton).symm⟩
  · exact ⟨[], by simp, h.1⟩
  · obtain ⟨rfl, _⟩ := h
    exact ⟨[path], by simpa using hname.resolve_left hempty, (String.intercalate_singleton).symm⟩

theorem exists_spells_of_mem_search {recursive : Bool} {folders names : List String}
    (hw : w.tree.WellFormed) (hnames : ∀ name ∈ names, name = "" ∨ IsProperName name)
    (hfolders : ∀ folder ∈ folders, ∃ above last, Path.Spells above last folder)
    (h : path ∈ w.search recursive folders names) :
    ∃ above last, Path.Spells above last path := by
  induction names generalizing folders with
  | nil => exact hfolders path h
  | cons name rest ih =>
    rw [search] at h
    refine ih (fun n hn => hnames n (List.mem_cons_of_mem _ hn)) (fun next hnext => ?_) h
    obtain ⟨folder, hfolder, hfound⟩ := List.mem_flatMap.mp hnext
    obtain ⟨found, hmem, rfl⟩ := List.mem_map.mp hfound
    obtain ⟨above, last, hspells⟩ := hfolders folder hfolder
    obtain ⟨steps, hproper, rfl⟩ :=
      exists_names_of_mem_searchName hw (hnames name List.mem_cons_self) hmem
    exact hspells.join_names hproper

theorem exists_spells_of_mem_glob {recursive : Bool} {above : List String} {last pattern : String}
    (hw : w.tree.WellFormed) (hpattern : Path.Spells above last pattern)
    (h : path ∈ w.glob pattern recursive) : ∃ above last, Path.Spells above last path := by
  rw [mem_glob] at h
  split_ifs at h with hwild
  · obtain ⟨hbase, hnames⟩ := Glob.spells_base hpattern hwild
    refine exists_spells_of_mem_search hw hnames (fun folder hfolder => ?_) h.1
    rwa [List.mem_singleton.mp hfolder]
  · rw [h.1]
    exact ⟨above, last, hpattern⟩

/-- What a plainly spelled argument asks for is spelled plainly. -/
theorem exists_spells_of_mem_selected {recursive : Bool} {above : List String}
    {last argument : String} (hw : w.tree.WellFormed) (hargument : Path.Spells above last argument)
    (h : path ∈ w.selected recursive argument) : ∃ above last, Path.Spells above last path := by
  have hbelow : ∀ {names : List String} {node : FileNode}, (names, node) ∈ w.below argument →
      ∃ above last, Path.Spells above last (Path.join argument ("/".intercalate names)) := by
    intro names node hmem
    exact hargument.join_names (proper_of_mem_below hw hmem)
  unfold selected at h
  split at h
  · split at h
    · obtain ⟨names, bytes, hmem, _, rfl⟩ := mem_schemasBelow.mp h
      exact hbelow hmem
    · obtain ⟨name, bytes, hmem, _, rfl⟩ := mem_schemasIn.mp h
      have hjoined := hbelow (mem_children.mp hmem)
      rwa [String.intercalate_singleton] at hjoined
  · exact exists_spells_of_mem_glob hw hargument h

theorem place_of_spells {above : List String} {last : String} {place : Location} {node : FileNode}
    (h : Path.Spells above last path) (hfind : w.find path = .ok (place, node)) :
    place = Path.names path := by
  have hplace := (find_eq_ok.mp hfind).1
  rw [Workspace.place, if_neg (ne_empty_of_place hplace), h.isAbsolute_eq, if_pos rfl] at hplace
  exact FileTree.eq_append_of_follow h.proper_names hplace

/-- Two plain paths to one node are the same text, but for the slash that a folder can have behind
it. -/
theorem eq_of_isPlain {other : String} {place : Location} {node : FileNode}
    (h : Path.IsPlain path) (h' : Path.IsPlain other) (hfind : w.find path = .ok (place, node))
    (hfind' : w.find other = .ok (place, node))
    (hslash : Path.endsInSlash path = Path.endsInSlash other) : path = other := by
  obtain ⟨above, last, hspells⟩ := h.exists_spells
  obtain ⟨above', last', hspells'⟩ := h'.exists_spells
  have hnames := (place_of_spells hspells hfind).symm.trans (place_of_spells hspells' hfind')
  exact hspells.eq_of_names_eq hspells' hnames hslash

/-- Two paths lead to one file. -/
def LeadToSameFile (w : Workspace) (p q : String) : Prop :=
  ∃ place bytes, w.find p = .ok (place, .file bytes) ∧ w.find q = .ok (place, .file bytes)

variable {paths excludes : List String} {recursive : Bool} {root p q : String}

/-- A node that is collected under one plain spelling and excluded under another is a folder, with
a slash behind one of the two. -/
theorem folder_of_excluded {place : Location} {node : FileNode}
    (hp : p ∈ w.collect paths excludes recursive root)
    (hq : q ∈ w.excluded excludes recursive root) (hplain : Path.IsPlain p)
    (hplain' : Path.IsPlain q) (hfind : w.find p = .ok (place, node))
    (hfind' : w.find q = .ok (place, node)) :
    node = .folder ∧ Path.endsInSlash p ≠ Path.endsInSlash q := by
  have hslash : Path.endsInSlash p ≠ Path.endsInSlash q := fun hslash =>
    (mem_collect.mp hp).2 (eq_of_isPlain hplain hplain' hfind hfind' hslash ▸ hq)
  refine ⟨?_, hslash⟩
  -- A slash at the end is all that is left to tell the two, and none leads to a file.
  rcases (find_eq_ok.mp hfind).2.2 with hfolder | hnone
  · exact hfolder
  · rcases (find_eq_ok.mp hfind').2.2 with hfolder | hnone'
    · exact hfolder
    · exact absurd (hnone.trans hnone'.symm) hslash

/-- Exclusion goes by the spelling. No collected path is the text of an excluded one; where a
collected and an excluded path lead to one node, either one of them is not spelled plainly, or they
lead to a folder, with a slash behind one of the two. So if all arguments are spelled plainly, no
excluded file is collected. -/
theorem excluded_by_spelling (hw : w.tree.WellFormed) (paths excludes : List String)
    (recursive : Bool) (root : String) :
    (∀ p ∈ w.collect paths excludes recursive root, p ∉ w.excluded excludes recursive root) ∧
    (∀ p ∈ w.collect paths excludes recursive root, ∀ q ∈ w.excluded excludes recursive root,
      ∀ place node, w.find p = .ok (place, node) → w.find q = .ok (place, node) →
        Path.IsPlain p → Path.IsPlain q →
          node = .folder ∧ Path.endsInSlash p ≠ Path.endsInSlash q) ∧
    ((∀ argument ∈ paths ++ excludes, Path.IsPlain (Path.join root argument)) →
      ∀ p ∈ w.collect paths excludes recursive root,
        ∀ q ∈ w.excluded excludes recursive root, ¬ w.LeadToSameFile p q) := by
  refine ⟨fun p hp => (mem_collect.mp hp).2, fun p hp q hq place node hfind hfind' hplain hplain' =>
    folder_of_excluded hp hq hplain hplain' hfind hfind', ?_⟩
  rintro hplain p hp q hq ⟨place, bytes, hfind, hfind'⟩
  obtain ⟨⟨argument, hargument, hselected⟩, _⟩ := mem_collect.mp hp
  obtain ⟨pattern, hpattern, hmatched⟩ := List.mem_flatMap.mp hq
  obtain ⟨_, _, hspells⟩ := (hplain argument (List.mem_append_left _ hargument)).exists_spells
  obtain ⟨_, _, hspells'⟩ := (hplain pattern (List.mem_append_right _ hpattern)).exists_spells
  obtain ⟨_, _, hp'⟩ := exists_spells_of_mem_selected hw hspells hselected
  obtain ⟨_, _, hq'⟩ := exists_spells_of_mem_glob hw hspells' hmatched
  obtain ⟨hfolder, _⟩ := folder_of_excluded hp hq hp'.isPlain hq'.isPlain hfind hfind'
  cases hfolder

/-- A folder with two schemas. -/
def pair : Workspace :=
  ⟨⟨[(["d"], .folder), (["d", "a.xml"], .file []), (["d", "b.xml"], .file [])]⟩, []⟩

theorem wellFormed_pair : pair.tree.WellFormed := by
  decide

/-- Excluded under the spelling of the folder it lies in, a schema is not collected. -/
theorem pair_excluded : pair.collect ["d"] ["d/b.xml"] false "/" = ["/d/a.xml"] ∧
    ∀ p ∈ pair.collect ["d"] ["d/b.xml"] false "/", ∀ q ∈ pair.excluded ["d/b.xml"] false "/",
      ¬ pair.LeadToSameFile p q :=
  ⟨by decide +kernel, (excluded_by_spelling wellFormed_pair ["d"] ["d/b.xml"] false "/").2.2
    (by decide +kernel)⟩

/-- Excluded under another spelling it is collected. -/
theorem excluded_file_collected : ¬ ∀ (w : Workspace) (paths excludes : List String)
    (recursive : Bool) (root : String), w.tree.WellFormed →
      ∀ p ∈ w.collect paths excludes recursive root,
        ∀ q ∈ w.excluded excludes recursive root, ¬ w.LeadToSameFile p q := by
  intro h
  have hmem : "/d/b.xml" ∈ pair.collect ["d"] ["./d/b.xml"] false "/" := by decide +kernel
  have hmem' : "/./d/b.xml" ∈ pair.excluded ["./d/b.xml"] false "/" := by decide +kernel
  exact h pair ["d"] ["./d/b.xml"] false "/" wellFormed_pair _ hmem _ hmem'
    ⟨["d", "b.xml"], [], by decide +kernel, by decide +kernel⟩

end Workspace

end DeclGen
