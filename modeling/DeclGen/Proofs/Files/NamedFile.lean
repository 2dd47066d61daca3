import DeclGen.Proofs.Files.Spelling
import DeclGen.Proofs.Files.Stability

/-!
Files that are asked for by their own path. The path is a pattern, so a file is found by it if it
holds no wildcard, or if each of its names, read as a pattern, stands for itself.
-/

namespace DeclGen

namespace Wildcard

theorem matchesAll_star {ws : List Wildcard} {cs : List Char} (h : matchesAll ws cs = true) :
    matchesAll (star :: ws) cs = true := by
  cases cs with
  | nil => rwa [matchesAll]
  | cons c cs => rw [matchesAll, h, Bool.true_or]

/-- Without brackets every character stands for itself, at least. -/
theorem matchesAll_ofPattern_self {cs : List Char} (h : '[' ∉ cs) :
    matchesAll (ofPattern cs) cs = true := by
  fun_induction ofPattern cs with
  | case1 => rw [matchesAll, List.isEmpty_nil]
  | case2 cs ih =>
    rw [matchesAll, matchesAll_star (ih fun hmem => h (List.mem_cons_of_mem _ hmem)),
      Bool.or_true]
  | case3 cs ih => simp [matchesAll, holds, ih fun hmem => h (List.mem_cons_of_mem _ hmem)]
  | case4 => exact absurd List.mem_cons_self h
  | case5 => exact absurd List.mem_cons_self h
  | case6 c cs _ _ _ ih =>
    simp [matchesAll, holds, ih fun hmem => h (List.mem_cons_of_mem _ hmem)]

end Wildcard

theorem nameMatches_self {name : String} (h : '[' ∉ name.toList) :
    nameMatches name name = true :=
  Wildcard.matchesAll_ofPattern_self h

theorem nameMatches_self_of_fixed {name : String} (h : hasWildcard name = false) :
    nameMatches name name = true := by
  refine nameMatches_self fun hmem => ?_
  have hnone := List.any_eq_false.mp h '[' hmem
  exact absurd rfl hnone

theorem isProperName_of_hasWildcard {name : String} (hslash : '/' ∉ name.toList)
    (h : hasWildcard name = true) : IsProperName name := by
  refine ⟨?_, hslash, ?_, ?_⟩ <;>
  · rintro rfl
    exact absurd h (by decide)

namespace Workspace

variable {w : Workspace} {folder path name : String} {recursive foldersOnly : Bool}
  {names : List String}

/-- A name that stands for itself is found where it is present. -/
theorem mem_searchName_self (hne : folder ≠ "") (hname : name ≠ "" ∧ '/' ∉ name.toList)
    (hself : nameMatches name name = true)
    (hpresent : w.isPresent (Path.join folder name) = true)
    (hwanted : foldersOnly = true → w.isFolder (Path.join folder name) = true) :
    name ∈ w.searchName recursive foldersOnly folder name := by
  have hlisted : hasWildcard name = true → ∃ node, (name, node) ∈ w.children folder ∧
      isWanted foldersOnly node = true := by
    intro hwild
    have hproper : ∀ n ∈ [name], IsProperName n :=
      List.forall_mem_singleton.mpr (isProperName_of_hasWildcard hname.2 hwild)
    have hjoined : Path.join folder ("/".intercalate [name]) = Path.join folder name := by
      rw [String.intercalate_singleton]
    obtain ⟨node, hbelow, hfolder⟩ := exists_mem_below_of_isPresent hne hproper
      (List.cons_ne_nil name []) (hjoined ▸ hpresent)
    rw [hjoined] at hfolder
    refine ⟨node, mem_children.mpr hbelow, ?_⟩
    cases foldersOnly with
    | false => rfl
    | true => simp [isWanted, hfolder (hwanted rfl)]
  rw [mem_searchName]
  split_ifs with hdeep hwild hempty
  · obtain rfl := beq_iff_eq.mp (Bool.and_eq_true _ _ ▸ hdeep).2
    obtain ⟨node, hchild, hnode⟩ := hlisted (by decide)
    rw [mem_deepNames, listedFolder_of_ne hne]
    refine ⟨?_, .inr ⟨[deepName], node, mem_children.mp hchild, hnode, by decide,
      (String.intercalate_singleton).symm⟩⟩
    exact isFolder_of_isPresent_join hne (Path.isAbsolute_eq_false_of_noSlash hname.2) hpresent
  · obtain ⟨node, hchild, hnode⟩ := hlisted hwild
    rw [mem_matchingNames, listedFolder_of_ne hne]
    exact ⟨node, hchild, hnode, Bool.or_not_self _, hself⟩
  · exact absurd hempty hname.1
  · exact ⟨rfl, hpresent⟩

/-- What names lead to from a folder tells that the folder is there. -/
theorem isFolder_of_isPresent_foldl (hne : folder ≠ "")
    (hnames : ∀ name ∈ names, '/' ∉ name.toList) (hsome : names ≠ [])
    (hpresent : w.isPresent (names.foldl Path.join folder) = true) :
    w.isFolder folder = true := by
  induction names generalizing folder with
  | nil => exact absurd rfl hsome
  | cons name rest ih =>
    refine isFolder_of_isPresent_join hne
      (Path.isAbsolute_eq_false_of_noSlash (hnames name List.mem_cons_self)) ?_
    cases rest with
    | nil => exact hpresent
    | cons next rest =>
      exact isPresent_of_isFolder (ih (Path.join_ne_empty name hne)
        (fun n hn => hnames n (List.mem_cons_of_mem _ hn)) (List.cons_ne_nil next rest) hpresent)

/-- A search finds the names that it looks for, if they stand for themselves. -/
theorem mem_search_self (hne : folder ≠ "")
    (hnames : ∀ name ∈ names, name ≠ "" ∧ '/' ∉ name.toList)
    (hself : ∀ name ∈ names, nameMatches name name = true)
    (hpresent : w.isPresent (names.foldl Path.join folder) = true) :
    names.foldl Path.join folder ∈ w.search recursive [folder] names := by
  induction names generalizing folder with
  | nil => exact List.mem_singleton_self folder
  | cons name rest ih =>
    have hjoined := Path.join_ne_empty name hne
    obtain ⟨hfirst, hrest⟩ := List.forall_mem_cons.mp hnames
    obtain ⟨hown, hothers⟩ := List.forall_mem_cons.mp hself
    have hfolder : (!rest.isEmpty) = true → w.isFolder (Path.join folder name) = true := by
      intro hsome
      exact isFolder_of_isPresent_foldl hjoined (fun n hn => (hrest n hn).2)
        (by simpa using hsome) hpresent
    have hthere : w.isPresent (Path.join folder name) = true := by
      cases rest with
      | nil => exact hpresent
      | cons next rest => exact isPresent_of_isFolder (hfolder rfl)
    exact mem_search_cons.mpr ⟨name, mem_searchName_self hne hfirst hown hthere hfolder,
      ih hjoined hrest hothers hpresent⟩

/-- Name by name, a search finds what the names that it looks for stand for. -/
theorem names_of_mem_search (hw : w.tree.WellFormed)
    (hnames : ∀ name ∈ names, name ≠ "" ∧ '/' ∉ name.toList)
    (hdeep : recursive = true → deepName ∉ names)
    (h : path ∈ w.search recursive [folder] names) :
    ∃ found, Path.names path = Path.names folder ++ found ∧
      List.Forall₂ (nameMatches · · = true) names found := by
  induction names generalizing folder with
  | nil => exact ⟨[], by rw [List.mem_singleton.mp h, List.append_nil], .nil⟩
  | cons name rest ih =>
    obtain ⟨hfirst, hrest⟩ := List.forall_mem_cons.mp hnames
    obtain ⟨step, hstep, hmem⟩ := mem_search_cons.mp h
    have hone : Path.names step = [step] ∧ nameMatches name step = true := by
      rw [mem_searchName] at hstep
      split_ifs at hstep with hstar hwild hempty
      · obtain ⟨hrecursive, heq⟩ := Bool.and_eq_true _ _ ▸ hstar
        exact absurd (beq_iff_eq.mp heq ▸ List.mem_cons_self) (hdeep hrecursive)
      · obtain ⟨node, hchild, _, _, hmatches⟩ := mem_matchingNames.mp hstep
        have hproper := proper_of_mem_below hw (mem_children.mp hchild)
        exact ⟨Path.names_of_proper (hproper step (List.mem_singleton_self step)), hmatches⟩
      · exact absurd hempty hfirst.1
      · rw [hstep.1]
        exact ⟨Path.names_of_noSlash hfirst.1 hfirst.2,
          nameMatches_self_of_fixed (by simpa using hwild)⟩
    obtain ⟨found, hfound, hmatches⟩ := ih hrest
      (fun hrecursive hin => hdeep hrecursive (List.mem_cons_of_mem _ hin)) hmem
    have hrelative := isAbsolute_of_mem_searchName hw hfirst.2 hstep
    refine ⟨step :: found, ?_, .cons hone.2 hmatches⟩
    rw [hfound, Path.names_join folder hrelative, hone.1, List.append_assoc,
      List.singleton_append]

end Workspace

namespace Path

/-- A path from the root without a slash behind a slash. -/
def IsSingleSlashed (path : String) : Prop :=
  isAbsolute path = true ∧ ¬ ['/', '/'] <:+: path.toList

instance (path : String) : Decidable (IsSingleSlashed path) :=
  inferInstanceAs (Decidable (_ ∧ _))

variable {xs ys : List String} {name path : String}

theorem names_rooted (h : ∀ x ∈ xs, x ≠ "" ∧ '/' ∉ x.toList) : names (rooted xs) = xs := by
  rcases List.eq_nil_or_concat xs with rfl | ⟨init, last, rfl⟩
  · decide
  · rw [List.concat_eq_append] at h ⊢
    have hlast := h last (by simp)
    rw [rooted_concat, String.append_assoc, names_slash_append,
      names_slashed_append fun x hx => h x (List.mem_append_left _ hx),
      names_of_noSlash hlast.1 hlast.2]

theorem join_rooted (h : ∀ x ∈ xs, x ≠ "" ∧ '/' ∉ x.toList)
    (hname : name ≠ "" ∧ '/' ∉ name.toList) : join (rooted xs) name = rooted (xs ++ [name]) := by
  rw [join, if_neg (by simp [isAbsolute_eq_false_of_noSlash hname.2]), rooted_concat]
  rcases List.eq_nil_or_concat xs with rfl | ⟨init, last, rfl⟩
  · rfl
  · rw [List.concat_eq_append] at h ⊢
    have hlast := h last (by simp)
    have hslash : endsInSlash (rooted (init ++ [last])) = false := by
      rw [rooted_concat, endsInSlash_append _ hlast.1, endsInSlash_eq_false_of_noSlash hlast.2]
    have hne : rooted (init ++ [last]) ≠ "" := by simp [rooted]
    rw [hslash, beq_false_of_ne hne, Bool.or_false, if_neg Bool.false_ne_true, rooted_concat,
      slashed_concat]
    simp only [String.append_assoc]

theorem foldl_join_rooted (h : ∀ x ∈ xs ++ ys, x ≠ "" ∧ '/' ∉ x.toList) :
    ys.foldl join (rooted xs) = rooted (xs ++ ys) := by
  induction ys generalizing xs with
  | nil => rw [List.append_nil, List.foldl_nil]
  | cons y ys ih =>
    rw [List.append_cons] at h ⊢
    rw [List.foldl_cons, join_rooted (fun x hx => h x (by simp [hx])) (h y (by simp)), ih h]

/-- A path that does not end in a slash is told by its names. -/
theorem IsSingleSlashed.eq_rooted (h : IsSingleSlashed path) (hslash : endsInSlash path = false) :
    path = rooted (names path) := by
  obtain ⟨habsolute, hdouble⟩ := h
  cases hcs : path.toList with
  | nil => simp [isAbsolute, hcs] at habsolute
  | cons c cs =>
    obtain rfl : c = '/' := by simpa [isAbsolute, hcs] using habsolute
    rw [hcs] at hdouble
    obtain ⟨above, last, habove, hlast, htext⟩ := exists_slashed_append cs hdouble
    have hpath : path = "/" ++ slashed above ++ last := by
      rw [String.append_assoc, ← htext]
      exact String.toList_injective (by simp [hcs])
    have hne : last ≠ "" := by
      rintro rfl
      rw [hpath, String.append_empty, endsInSlash_slashed] at hslash
      cases hslash
    rw [← rooted_concat] at hpath
    rw [hpath, names_rooted]
    intro name hname
    rcases List.mem_append.mp hname with hin | hin
    · exact habove name hin
    · rw [List.mem_singleton.mp hin]
      exact ⟨hne, hlast⟩

end Path

theorem searchNames_eq_self {names : List String} (h : ∀ name ∈ names, name ≠ "") :
    searchNames names = names := by
  fun_induction searchNames names with
  | case1 => rfl
  | case2 => rfl
  | case3 => exact absurd rfl (h _ List.mem_cons_self)
  | case4 first rest _ _ ih => rw [ih fun n hn => h n (List.mem_cons_of_mem _ hn)]

variable {names : List String}

theorem Glob.ofPattern_rooted (hnames : ∀ name ∈ names, name ≠ "" ∧ '/' ∉ name.toList)
    (hsome : names ≠ []) : Glob.ofPattern (Path.rooted names) =
      ⟨Path.rooted (names.takeWhile (!hasWildcard ·)), names.dropWhile (!hasWildcard ·)⟩ := by
  obtain ⟨init, last, rfl⟩ := (List.eq_nil_or_concat names).resolve_left hsome
  rw [List.concat_eq_append] at hnames ⊢
  rw [Path.rooted_concat, Glob.ofPattern_slashed (fun x hx => (hnames x (by simp [hx])).2)
    (hnames last (by simp)).2, Path.trimSlashes_slashed fun x hx =>
      hnames x ((List.takeWhile_prefix _).mem hx),
    searchNames_eq_self fun x hx => (hnames x ((List.dropWhile_suffix _).mem hx)).1]

theorem hasWildcard_of_mem {name : String} (hname : name ∈ names)
    (h : hasWildcard (Path.rooted names) = false) : hasWildcard name = false := by
  obtain ⟨init, last, rfl⟩ := (List.eq_nil_or_concat names).resolve_left (List.ne_nil_of_mem hname)
  rw [List.concat_eq_append] at hname h
  rw [hasWildcard, List.any_eq_false] at h ⊢
  refine fun c hc => h c ?_
  rw [Path.rooted_concat, String.toList_append, String.toList_append, Path.toList_slashed]
  rcases List.mem_append.mp hname with hinit | hlast
  · exact List.mem_append_left _ (List.mem_append_right _
      (List.mem_flatMap.mpr ⟨name, hinit, List.mem_append_left _ hc⟩))
  · rw [← List.mem_singleton.mp hlast]
    exact List.mem_append_right _ hc

namespace Workspace

variable {w : Workspace} {path : String} {recursive : Bool}

theorem mem_glob_self (hnames : ∀ name ∈ names, name ≠ "" ∧ '/' ∉ name.toList)
    (hsome : names ≠ []) (hself : ∀ name ∈ names, nameMatches name name = true)
    (hpresent : w.isPresent (Path.rooted names) = true) :
    Path.rooted names ∈ w.glob (Path.rooted names) recursive := by
  rw [mem_glob]
  split_ifs
  · have hsplit := List.takeWhile_append_dropWhile (p := (!hasWildcard ·)) (l := names)
    have hjoined : (names.dropWhile (!hasWildcard ·)).foldl Path.join
        (Path.rooted (names.takeWhile (!hasWildcard ·))) = Path.rooted names := by
      rw [Path.foldl_join_rooted (by rwa [hsplit]), hsplit]
    have hrest := List.dropWhile_suffix (l := names) (!hasWildcard ·)
    refine ⟨?_, by simp [Path.rooted]⟩
    rw [Glob.ofPattern_rooted hnames hsome]
    rw [← hjoined] at hpresent ⊢
    exact mem_search_self (by simp [Path.rooted]) (fun x hx => hnames x (hrest.mem hx))
      (fun x hx => hself x (hrest.mem hx)) hpresent
  · exact ⟨rfl, hpresent⟩

theorem names_of_mem_glob (hw : w.tree.WellFormed)
    (hnames : ∀ name ∈ names, name ≠ "" ∧ '/' ∉ name.toList) (hsome : names ≠ [])
    (hdeep : recursive = true → deepName ∉ names)
    (h : path ∈ w.glob (Path.rooted names) recursive) :
    List.Forall₂ (nameMatches · · = true) names (Path.names path) := by
  rw [mem_glob] at h
  split_ifs at h with hwild
  · have hsplit := List.takeWhile_append_dropWhile (p := (!hasWildcard ·)) (l := names)
    have hfirst := List.takeWhile_prefix (l := names) (!hasWildcard ·)
    have hrest := List.dropWhile_suffix (l := names) (!hasWildcard ·)
    rw [Glob.ofPattern_rooted hnames hsome] at h
    obtain ⟨found, hfound, hmatches⟩ := names_of_mem_search hw
      (fun x hx => hnames x (hrest.mem hx))
      (fun hrecursive hin => hdeep hrecursive (hrest.mem hin)) h.1
    rw [hfound, Path.names_rooted fun x hx => hnames x (hfirst.mem hx)]
    have hfixed : List.Forall₂ (nameMatches · · = true) (names.takeWhile (!hasWildcard ·))
        (names.takeWhile (!hasWildcard ·)) := by
      refine List.forall₂_same.mpr fun x hx => nameMatches_self_of_fixed ?_
      simpa using List.mem_takeWhile_imp hx
    have hboth := List.rel_append hfixed hmatches
    simp only [hsplit] at hboth
    exact hboth
  · rw [h.1, Path.names_rooted hnames]
    exact List.forall₂_same.mpr fun x hx =>
      nameMatches_self_of_fixed (hasWildcard_of_mem hx (by simpa using hwild))

/-- Every name on a path, read as a pattern, stands for itself. -/
def StandsForItself (path : String) : Prop :=
  ∀ name ∈ Path.names path, nameMatches name name = true

instance (path : String) : Decidable (StandsForItself path) :=
  inferInstanceAs (Decidable (∀ name ∈ Path.names path, _))

variable {argument root : String} {place : Location} {bytes : List UInt8}

/-- The path of a file is taken for a pattern. -/
theorem selected_of_find_file (hfind : w.find path = .ok (place, .file bytes)) :
    w.selected recursive path = w.glob path recursive := by
  refine if_neg fun hfolder => ?_
  obtain ⟨_, hfind'⟩ := isFolder_iff.mp hfolder
  cases hfind.symm.trans hfind'

theorem mem_collect_of_find_file {q : String}
    (hfind : w.find (Path.join root argument) = .ok (place, .file bytes)) :
    q ∈ w.collect [argument] [] recursive root ↔
      q ∈ w.glob (Path.join root argument) recursive := by
  rw [mem_collect]
  simp [excluded, selected_of_find_file hfind]

/-- A file is asked for by its own path. It alone is collected if the path holds no wildcard. Where
no slash follows a slash, it is collected if the path stands for itself; and if no name on the path
asks for folders at any depth it is collected in no other case, and whatever is collected matches
the path name by name. -/
theorem collect_named_file (hw : w.tree.WellFormed)
    (hfind : w.find (Path.join root argument) = .ok (place, .file bytes)) (recursive : Bool) :
    (hasWildcard (Path.join root argument) = false →
      w.collect [argument] [] recursive root = [Path.join root argument]) ∧
    (Path.IsSingleSlashed (Path.join root argument) →
      (StandsForItself (Path.join root argument) →
        Path.join root argument ∈ w.collect [argument] [] recursive root) ∧
      ((recursive = true → deepName ∉ Path.names (Path.join root argument)) →
        (Path.join root argument ∈ w.collect [argument] [] recursive root ↔
          StandsForItself (Path.join root argument)) ∧
        ∀ q ∈ w.collect [argument] [] recursive root,
          List.Forall₂ (nameMatches · · = true) (Path.names (Path.join root argument))
            (Path.names q))) := by
  have hpresent := isPresent_iff.mpr ⟨_, _, hfind⟩
  have hmem : ∀ q, q ∈ w.collect [argument] [] recursive root ↔
      q ∈ w.glob (Path.join root argument) recursive := fun _ => mem_collect_of_find_file hfind
  constructor
  · intro hfixed
    have hglob : w.glob (Path.join root argument) recursive = [Path.join root argument] := by
      rw [glob, if_neg (by simp [hfixed]), if_pos hpresent]
    simp [collect, selected_of_find_file hfind, hglob, sortedPaths, insertPath]
  · intro hsingle
    have hslash : Path.endsInSlash (Path.join root argument) = false := by
      simpa using (find_eq_ok.mp hfind).2.2
    have hrooted := hsingle.eq_rooted hslash
    have hnames : ∀ name ∈ Path.names (Path.join root argument), name ≠ "" ∧ '/' ∉ name.toList :=
      Path.noSlash_of_mem_names
    generalize Path.join root argument = path at *
    have hsome : Path.names path ≠ [] := by
      intro hnone
      rw [hrooted, hnone] at hslash
      exact absurd hslash (by decide)
    have hself : StandsForItself path → path ∈ w.collect [argument] [] recursive root := by
      intro hself
      rw [hmem, hrooted]
      exact mem_glob_self hnames hsome hself (hrooted ▸ hpresent)
    refine ⟨hself, fun hdeep => ?_⟩
    have hmatches : ∀ q ∈ w.collect [argument] [] recursive root,
        List.Forall₂ (nameMatches · · = true) (Path.names path) (Path.names q) := by
      intro q hq
      rw [hmem, hrooted] at hq
      exact names_of_mem_glob hw hnames hsome hdeep hq
    exact ⟨⟨fun hfound => List.forall₂_same.mp (hmatches path hfound), hself⟩, hmatches⟩

/-- A file with a set of characters in its name, and one with a star. -/
def bracketed : Workspace :=
  ⟨⟨[(["a*.xml"], .file []), (["a[1].xml"], .file [])]⟩, []⟩

theorem wellFormed_bracketed : bracketed.tree.WellFormed := by
  decide

theorem find_bracketed :
    bracketed.find (Path.join "/" "a[1].xml") = .ok (["a[1].xml"], .file []) ∧
    bracketed.find (Path.join "/" "a*.xml") = .ok (["a*.xml"], .file []) := by
  decide +kernel

/-- The file with the star is found by its path, the other one is not. -/
theorem bracketed_collected : bracketed.tree.WellFormed ∧
    bracketed.find (Path.join "/" "a[1].xml") = .ok (["a[1].xml"], .file []) ∧
    bracketed.find (Path.join "/" "a*.xml") = .ok (["a*.xml"], .file []) ∧
    "/a*.xml" ∈ bracketed.collect ["a*.xml"] [] true "/" ∧
    "/a[1].xml" ∉ bracketed.collect ["a[1].xml"] [] true "/" := by
  obtain ⟨hset, hstar⟩ := find_bracketed
  have hset' := (collect_named_file wellFormed_bracketed hset true).2 (by decide +kernel)
  have hstar' := (collect_named_file wellFormed_bracketed hstar true).2 (by decide +kernel)
  refine ⟨wellFormed_bracketed, hset, hstar, hstar'.1 (by decide +kernel), fun hfound => ?_⟩
  exact absurd ((hset'.2 fun _ => by decide +kernel).1.mp hfound) (by decide +kernel)

/-- A file is not always collected by its own path. -/
theorem named_file_not_collected : ¬ ∀ (w : Workspace) (argument root : String) (recursive : Bool)
    (place : Location) (bytes : List UInt8), w.tree.WellFormed →
      w.find (Path.join root argument) = .ok (place, .file bytes) →
        w.collect [argument] [] recursive root = [Path.join root argument] := by
  intro h
  have hcollect := h bracketed "a[1].xml" "/" false _ _ wellFormed_bracketed find_bracketed.1
  exact absurd hcollect (by decide +kernel)

end Workspace

end DeclGen
