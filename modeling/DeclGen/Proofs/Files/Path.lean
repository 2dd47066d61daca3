import Mathlib.Data.List.TakeWhile
import DeclGen.Files.Naming

/-!
The names that a path passes through. A joined path passes through the names of its folder and then
through those of its rest, however many slashes stand between them.
-/

namespace DeclGen

/-- A name that a file or a folder can have. -/
def IsProperName (name : String) : Prop :=
  name ≠ "" ∧ '/' ∉ name.toList ∧ name ≠ "." ∧ name ≠ ".."

instance (name : String) : Decidable (IsProperName name) :=
  inferInstanceAs (Decidable (_ ∧ _ ∧ _ ∧ _))

namespace Path

theorem parts_ne_nil (cs : List Char) : parts cs ≠ [] := by
  cases cs with
  | nil => simp [parts]
  | cons c cs =>
    unfold parts
    split
    · simp
    · split <;> simp

theorem parts_append_slash (xs ys : List Char) :
    parts (xs ++ '/' :: ys) = parts xs ++ parts ys := by
  induction xs with
  | nil => simp [parts]
  | cons x xs ih =>
    by_cases hx : x = '/'
    · simp only [List.cons_append, parts, hx, ↓reduceIte, ih]
    · simp only [List.cons_append, parts, hx, ↓reduceIte, ih]
      cases h : parts xs with
      | nil => exact absurd h (parts_ne_nil xs)
      | cons part rest => rfl

theorem parts_of_noSlash {cs : List Char} (h : '/' ∉ cs) : parts cs = [cs] := by
  induction cs with
  | nil => rfl
  | cons c cs ih =>
    rw [List.mem_cons, not_or] at h
    simp only [parts, Ne.symm h.1, ↓reduceIte, ih h.2]

theorem exists_mem_parts {c : Char} {cs : List Char} (hc : c ∈ cs) (hne : c ≠ '/') :
    ∃ part ∈ parts cs, c ∈ part := by
  induction cs with
  | nil => exact absurd hc List.not_mem_nil
  | cons d cs ih =>
    unfold parts
    by_cases hd : d = '/'
    · have hrest : c ∈ cs := (List.mem_cons.mp hc).resolve_left fun h => hne (h.trans hd)
      obtain ⟨part, hpart, hmem⟩ := ih hrest
      rw [if_pos hd]
      exact ⟨part, List.mem_cons_of_mem _ hpart, hmem⟩
    · rw [if_neg hd]
      cases hparts : parts cs with
      | nil => exact absurd hparts (parts_ne_nil cs)
      | cons first rest =>
        rcases List.mem_cons.mp hc with rfl | hrest
        · exact ⟨_, List.mem_cons_self, List.mem_cons_self⟩
        · obtain ⟨part, hpart, hmem⟩ := ih hrest
          rw [hparts] at hpart
          rcases List.mem_cons.mp hpart with rfl | hpart
          · exact ⟨_, List.mem_cons_self, List.mem_cons_of_mem _ hmem⟩
          · exact ⟨part, List.mem_cons_of_mem _ hpart, hmem⟩

theorem noSlash_of_mem_parts {part cs : List Char} (h : part ∈ parts cs) : '/' ∉ part := by
  induction cs generalizing part with
  | nil =>
    rw [List.mem_singleton.mp h]
    exact List.not_mem_nil
  | cons c cs ih =>
    unfold parts at h
    split at h
    · rcases List.mem_cons.mp h with rfl | hrest
      · exact List.not_mem_nil
      · exact ih hrest
    · next hc =>
      split at h
      · next hnone => exact absurd hnone (parts_ne_nil cs)
      · next first rest hparts =>
        rcases List.mem_cons.mp h with rfl | hrest
        · rw [List.mem_cons, not_or]
          exact ⟨Ne.symm hc, ih (hparts ▸ List.mem_cons_self)⟩
        · exact ih (hparts ▸ List.mem_cons_of_mem _ hrest)

theorem noSlash_of_mem_names {path : String} :
    ∀ name ∈ names path, name ≠ "" ∧ '/' ∉ name.toList := by
  intro name hname
  obtain ⟨part, hpart, rfl⟩ := List.mem_map.mp hname
  obtain ⟨hmem, hne⟩ := List.mem_filter.mp hpart
  exact ⟨by simpa using hne, by simpa using noSlash_of_mem_parts hmem⟩

theorem names_empty : names "" = [] := by decide

theorem names_append_slash (base path : String) :
    names (base ++ "/" ++ path) = names base ++ names path := by
  have htext : (base ++ "/" ++ path).toList = base.toList ++ '/' :: path.toList := by simp
  rw [names, htext, parts_append_slash, List.filter_append, List.map_append, names, names]

theorem names_of_noSlash {name : String} (hne : name ≠ "") (h : '/' ∉ name.toList) :
    names name = [name] := by
  have hcs : name.toList ≠ [] := by simpa using hne
  simp [names, parts_of_noSlash h, hcs]

theorem names_of_proper {name : String} (h : IsProperName name) : names name = [name] :=
  names_of_noSlash h.1 h.2.1

theorem eq_append_slash {path : String} (h : endsInSlash path = true) :
    ∃ start, path = start ++ "/" := by
  have hlast : path.toList.getLast? = some '/' := by simpa [endsInSlash] using h
  obtain ⟨cs, hcs⟩ := List.getLast?_eq_some_iff.mp hlast
  refine ⟨String.ofList cs, String.toList_injective ?_⟩
  simp [hcs]

/-- A path inside a folder passes through the names of the folder first. -/
theorem names_join {path : String} (base : String) (h : isAbsolute path = false) :
    names (join base path) = names base ++ names path := by
  unfold join
  rw [h, if_neg Bool.false_ne_true]
  split
  · next hbase =>
    rcases Bool.or_eq_true _ _ ▸ hbase with hempty | hslash
    · rw [beq_iff_eq.mp hempty, String.empty_append, names_empty, List.nil_append]
    · obtain ⟨start, rfl⟩ := eq_append_slash hslash
      have hstart := names_append_slash start ""
      rw [String.append_empty, names_empty, List.append_nil] at hstart
      rw [names_append_slash, hstart]
  · rw [names_append_slash]

theorem names_intercalate {place : List String} (h : ∀ name ∈ place, IsProperName name) :
    names ("/".intercalate place) = place := by
  induction place with
  | nil => exact names_empty
  | cons name rest ih =>
    have hname := names_of_proper (h name List.mem_cons_self)
    cases rest with
    | nil => rw [String.intercalate_singleton, hname]
    | cons next rest =>
      rw [String.intercalate_cons_cons, names_append_slash, hname,
        ih fun name hmem => h name (List.mem_cons_of_mem _ hmem), List.singleton_append]

theorem isAbsolute_eq_false_of_noSlash {path : String} (h : '/' ∉ path.toList) :
    isAbsolute path = false := by
  cases hcs : path.toList with
  | nil => simp [isAbsolute, hcs]
  | cons c cs =>
    rw [hcs, List.mem_cons, not_or] at h
    simp [isAbsolute, hcs, Ne.symm h.1]

/-- A relative path passes through a name at least. -/
theorem names_ne_nil {path : String} (hne : path ≠ "") (h : isAbsolute path = false) :
    names path ≠ [] := by
  cases hcs : path.toList with
  | nil => exact absurd hcs (by simpa using hne)
  | cons c cs =>
    have hc : c ≠ '/' := by
      rintro rfl
      simp [isAbsolute, hcs] at h
    have hmem : c ∈ path.toList := by simp [hcs]
    obtain ⟨part, hpart, hmem⟩ := exists_mem_parts hmem hc
    refine List.ne_nil_of_mem (List.mem_map_of_mem (List.mem_filter.mpr ⟨hpart, ?_⟩))
    simpa using List.ne_nil_of_mem hmem

theorem endsInSlash_eq_false_of_noSlash {path : String} (h : '/' ∉ path.toList) :
    endsInSlash path = false := by
  rw [Bool.eq_false_iff]
  intro hslash
  obtain ⟨start, rfl⟩ := eq_append_slash hslash
  simp at h

theorem isAbsolute_append {base : String} (path : String) (h : base ≠ "") :
    isAbsolute (base ++ path) = isAbsolute base := by
  cases hcs : base.toList with
  | nil => exact absurd hcs (by simpa using h)
  | cons c cs => simp [isAbsolute, hcs]

theorem endsInSlash_append {path : String} (base : String) (h : path ≠ "") :
    endsInSlash (base ++ path) = endsInSlash path := by
  cases hcs : path.toList.getLast? with
  | none => exact absurd hcs (by simpa using h)
  | some c => simp [endsInSlash, hcs]

/-- A path inside a folder begins as the folder does. -/
theorem isAbsolute_join {base path : String} (hbase : base ≠ "") (h : isAbsolute path = false) :
    isAbsolute (join base path) = isAbsolute base := by
  unfold join
  rw [h, if_neg Bool.false_ne_true]
  split
  · exact isAbsolute_append _ hbase
  · rw [String.append_assoc]
    exact isAbsolute_append _ hbase

/-- What is joined to a path from the root begins at the root, too. -/
theorem isAbsolute_join_of_isAbsolute {base : String} (path : String)
    (h : isAbsolute base = true) : isAbsolute (join base path) = true := by
  cases hpath : isAbsolute path with
  | true => rwa [join, if_pos hpath]
  | false =>
    have hbase : base ≠ "" := by
      rintro rfl
      cases h
    rw [isAbsolute_join hbase hpath, h]

theorem endsInSlash_join {path : String} (base : String) (hpath : path ≠ "") :
    endsInSlash (join base path) = endsInSlash path := by
  unfold join
  split
  · rfl
  · split <;> exact endsInSlash_append _ hpath

/-- A folder joined with nothing has a slash behind it. -/
theorem endsInSlash_join_empty {base : String} (hbase : base ≠ "") :
    endsInSlash (join base "") = true := by
  rw [join, if_neg (by decide), beq_false_of_ne hbase, Bool.false_or]
  split
  · next hslash => rwa [String.append_empty]
  · rw [String.append_empty, endsInSlash_append base (by decide)]
    decide

/-- From no folder a path stands for itself. -/
theorem empty_join (path : String) : join "" path = path := by
  simp [join]

theorem join_ne_empty {base : String} (path : String) (hbase : base ≠ "") :
    join base path ≠ "" := by
  unfold join
  split
  · next h =>
    rintro rfl
    exact absurd h (by decide)
  · split <;> simp [hbase]

theorem intercalate_ne_empty {place : List String} (h : ∀ name ∈ place, IsProperName name)
    (hne : place ≠ []) : "/".intercalate place ≠ "" := by
  intro hempty
  have hnames := names_intercalate h
  rw [hempty, names_empty] at hnames
  exact hne hnames.symm

theorem isAbsolute_intercalate {place : List String} (h : ∀ name ∈ place, IsProperName name) :
    isAbsolute ("/".intercalate place) = false := by
  cases place with
  | nil => rfl
  | cons name rest =>
    have hname := h name List.mem_cons_self
    have hrelative := isAbsolute_eq_false_of_noSlash hname.2.1
    cases rest with
    | nil => rwa [String.intercalate_singleton]
    | cons next rest =>
      rw [String.intercalate_cons_cons, String.append_assoc, isAbsolute_append _ hname.1, hrelative]

theorem endsInSlash_intercalate {place : List String} (h : ∀ name ∈ place, IsProperName name) :
    endsInSlash ("/".intercalate place) = false := by
  induction place with
  | nil => rfl
  | cons name rest ih =>
    cases rest with
    | nil =>
      rw [String.intercalate_singleton]
      exact endsInSlash_eq_false_of_noSlash (h name List.mem_cons_self).2.1
    | cons next rest =>
      have hrest : ∀ name ∈ next :: rest, IsProperName name :=
        fun name hmem => h name (List.mem_cons_of_mem _ hmem)
      rw [String.intercalate_cons_cons,
        endsInSlash_append _ (intercalate_ne_empty hrest (List.cons_ne_nil next rest)), ih hrest]

theorem noSlash_fileName (path : String) : '/' ∉ (fileName path).toList := by
  rw [fileName, String.toList_ofList, divide, List.mem_reverse]
  intro h
  simpa using List.mem_takeWhile_imp h

theorem names_append_slashes (cs : List Char) {slashes : List Char}
    (h : ∀ c ∈ slashes, c = '/') :
    names (String.ofList (cs ++ slashes)) = names (String.ofList cs) := by
  induction slashes generalizing cs with
  | nil => rw [List.append_nil]
  | cons slash rest ih =>
    obtain rfl : slash = '/' := h slash List.mem_cons_self
    have hrest : names (String.ofList rest) = [] :=
      (ih [] fun c hc => h c (List.mem_cons_of_mem _ hc)).trans names_empty
    have hsplit : String.ofList (cs ++ '/' :: rest) =
        String.ofList cs ++ "/" ++ String.ofList rest := String.toList_injective (by simp)
    rw [hsplit, names_append_slash, hrest, List.append_nil]

theorem trimSlashes_append (cs : List Char) :
    ∃ slashes, cs = trimSlashes cs ++ slashes ∧ ∀ c ∈ slashes, c = '/' := by
  unfold trimSlashes
  split
  · exact ⟨[], (List.append_nil cs).symm, by simp⟩
  · refine ⟨(cs.reverse.takeWhile (· == '/')).reverse, ?_, fun c hc => ?_⟩
    · rw [← List.reverse_append, List.takeWhile_append_dropWhile, List.reverse_reverse]
    · simpa using List.mem_takeWhile_imp (List.mem_reverse.mp hc)

theorem trimSlashes_ne_nil {cs : List Char} (h : cs ≠ []) : trimSlashes cs ≠ [] := by
  unfold trimSlashes
  split
  · exact h
  · next hall =>
    intro hnone
    refine hall (List.all_eq_true.mpr fun c hc => ?_)
    have hslashes := List.dropWhile_eq_nil_iff.mp (List.reverse_eq_nil_iff.mp hnone)
    exact hslashes c (List.mem_reverse.mpr hc)

theorem names_trimSlashes (cs : List Char) :
    names (String.ofList (trimSlashes cs)) = names (String.ofList cs) := by
  obtain ⟨slashes, hcs, hslashes⟩ := trimSlashes_append cs
  calc names (String.ofList (trimSlashes cs))
      = names (String.ofList (trimSlashes cs ++ slashes)) :=
        (names_append_slashes _ hslashes).symm
    _ = names (String.ofList cs) := by rw [← hcs]

/-- What stands before the name of a path ends in a slash, if there is anything. -/
theorem divide_fst_cases (cs : List Char) :
    (divide cs).1 = [] ∨ ∃ start, (divide cs).1 = start ++ ['/'] := by
  unfold divide
  cases h : cs.reverse.dropWhile (· != '/') with
  | nil => exact .inl rfl
  | cons c rest =>
    have hne : cs.reverse.dropWhile (· != '/') ≠ [] := by simp [h]
    have hhead := List.head_dropWhile_not (· != '/') hne
    simp only [h, List.head_cons, bne_eq_false_iff_eq] at hhead
    exact .inr ⟨rest.reverse, by simp [hhead]⟩

/-- A path passes through the names of its folder part and then through its own. -/
theorem names_directory_append (path : String) :
    names path = names (directory path) ++ names (fileName path) := by
  have hpath : String.ofList (divide path.toList).1 ++ fileName path = path :=
    String.toList_injective (by simp [fileName, divide_append])
  rw [directory, names_trimSlashes, ← congrArg names hpath]
  rcases divide_fst_cases path.toList with hnone | ⟨start, hstart⟩
  · rw [hnone]
    change names ("" ++ fileName path) = names "" ++ names (fileName path)
    rw [names_empty, String.empty_append, List.nil_append]
  · have hslash : String.ofList (start ++ ['/']) = String.ofList start ++ "/" :=
      String.toList_injective (by simp)
    rw [hstart, names_append_slashes start (by simp), hslash, names_append_slash]

theorem isAbsolute_directory {path : String} (h : directory path ≠ "") :
    isAbsolute (directory path) = isAbsolute path := by
  obtain ⟨slashes, hdivide, _⟩ := trimSlashes_append (divide path.toList).1
  have hpath : directory path ++ (String.ofList slashes ++ fileName path) = path := by
    apply String.toList_injective
    rw [String.toList_append, String.toList_append, directory, fileName, String.toList_ofList,
      String.toList_ofList, String.toList_ofList, ← List.append_assoc, ← hdivide, divide_append]
  rw [← isAbsolute_append (String.ofList slashes ++ fileName path) h, hpath]

theorem parent?_eq_some {path parent name : String} (h : parent? path = some (parent, name)) :
    parent ≠ "" ∧ name ≠ "" ∧ (parent = directory path ∧ name = fileName path ∨
      fileName path = "" ∧ parent = directory (directory path) ∧
        name = fileName (directory path)) := by
  unfold parent? splitLast at h
  by_cases hname : fileName path = ""
  · simp only [hname, ↓reduceIte, Option.ite_none_left_eq_some, not_or, Option.some.injEq,
      Prod.mk.injEq] at h
    obtain ⟨⟨hparent, hlast⟩, rfl, rfl⟩ := h
    exact ⟨hparent, hlast, .inr ⟨hname, rfl, rfl⟩⟩
  · simp only [hname, ↓reduceIte, Option.ite_none_left_eq_some, not_or, Option.some.injEq,
      Prod.mk.injEq] at h
    obtain ⟨⟨hparent, _⟩, rfl, rfl⟩ := h
    exact ⟨hparent, hname, .inl ⟨rfl, rfl⟩⟩

/-- A path passes through the names of the folder above it, and then through its last name. -/
theorem names_of_parent? {path parent name : String} (h : parent? path = some (parent, name)) :
    names path = names parent ++ [name] := by
  obtain ⟨_, hname, ⟨rfl, rfl⟩ | ⟨hslash, rfl, rfl⟩⟩ := parent?_eq_some h
  · rw [names_directory_append path, names_of_noSlash hname (noSlash_fileName _)]
  · rw [names_directory_append path, hslash, names_empty, List.append_nil,
      names_directory_append (directory path), names_of_noSlash hname (noSlash_fileName _)]

theorem isAbsolute_parent? {path parent name : String}
    (h : parent? path = some (parent, name)) : isAbsolute parent = isAbsolute path := by
  obtain ⟨hparent, _, ⟨rfl, rfl⟩ | ⟨_, rfl, rfl⟩⟩ := parent?_eq_some h
  · exact isAbsolute_directory hparent
  · have hne : directory path ≠ "" := by
      intro hempty
      rw [hempty] at hparent
      exact hparent rfl
    rw [isAbsolute_directory hparent, isAbsolute_directory hne]

/-- Where slashes at the end were dropped, one is left only if there is nothing else. -/
theorem names_of_directory_endsInSlash {path : String}
    (h : endsInSlash (directory path) = true) : names (directory path) = [] := by
  unfold directory at h ⊢
  generalize (divide path.toList).1 = cs at h ⊢
  unfold trimSlashes at h ⊢
  split at h
  · next hall =>
    rw [if_pos hall]
    have hslashes : ∀ c ∈ cs, c = '/' := by simpa using hall
    have hnames := names_append_slashes [] hslashes
    rwa [List.nil_append] at hnames
  · have hlast := List.head?_dropWhile_not (· == '/') cs.reverse
    rw [endsInSlash, String.toList_ofList, List.getLast?_reverse, beq_iff_eq] at h
    rw [h] at hlast
    cases hlast

theorem names_of_parent_endsInSlash {path parent name : String}
    (h : parent? path = some (parent, name)) (hslash : endsInSlash parent = true) :
    names parent = [] := by
  obtain ⟨_, _, ⟨rfl, _⟩ | ⟨_, rfl, _⟩⟩ := parent?_eq_some h
  · exact names_of_directory_endsInSlash hslash
  · exact names_of_directory_endsInSlash hslash

/-- A path and the paths of the folders above it, as far as the path tells them. -/
def ancestors (path : String) : List String :=
  match _ : parent? path with
  | none => [path]
  | some (parent, _) => path :: ancestors parent
termination_by path.length
decreasing_by exact length_parent_lt ‹_›

theorem mem_ancestors_self (path : String) : path ∈ ancestors path := by
  rw [ancestors]
  split <;> exact List.mem_cons_self

theorem ancestors_parent_subset {path parent name : String}
    (h : parent? path = some (parent, name)) : ancestors parent ⊆ ancestors path := by
  intro above habove
  rw [ancestors]
  split
  · next hnone => exact absurd (h.symm.trans hnone) (by simp)
  · next parent' name' hparent =>
    cases h.symm.trans hparent
    exact List.mem_cons_of_mem _ habove

end Path

end DeclGen
