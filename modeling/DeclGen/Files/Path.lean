/-!
Paths as texts. A path is taken apart at its last slash and never made shorter in any other way, so
two spellings of one place stay two paths.
-/

namespace DeclGen.Path

/-- The characters up to the last slash, which they include, and those behind it. -/
def divide (cs : List Char) : List Char × List Char :=
  ((cs.reverse.dropWhile (· != '/')).reverse, (cs.reverse.takeWhile (· != '/')).reverse)

/-- Drops the slashes at the end, unless there is nothing else. -/
def trimSlashes (cs : List Char) : List Char :=
  if cs.all (· == '/') then cs else (cs.reverse.dropWhile (· == '/')).reverse

/-- The folder part of a path: what stands before the last slash. -/
def directory (path : String) : String :=
  String.ofList (trimSlashes (divide path.toList).1)

/-- The name part of a path: what stands behind the last slash. -/
def fileName (path : String) : String := String.ofList (divide path.toList).2

/-- Drops the last dot and what follows it, if there is a dot. -/
def dropExtension (cs : List Char) : List Char :=
  if cs.contains '.' then (cs.reverse.dropWhile (· != '.')).tail.reverse else cs

theorem divide_append (cs : List Char) : (divide cs).1 ++ (divide cs).2 = cs := by
  rw [divide, ← List.reverse_append, List.takeWhile_append_dropWhile, List.reverse_reverse]

theorem length_trimSlashes_le (cs : List Char) : (trimSlashes cs).length ≤ cs.length := by
  unfold trimSlashes
  split
  · exact Nat.le_refl _
  · simpa using (List.dropWhile_suffix (l := cs.reverse) (· == '/')).length_le

/-- A name without its extension. Dots at the start of a name begin no extension. -/
def stem (name : String) : String :=
  let cs := name.toList
  String.ofList (cs.takeWhile (· == '.') ++ dropExtension (cs.dropWhile (· == '.')))

def isAbsolute (path : String) : Bool := path.toList.head? == some '/'

def endsInSlash (path : String) : Bool := path.toList.getLast? == some '/'

/-- A path inside a folder. An absolute path stands for itself. -/
def join (base path : String) : String :=
  if isAbsolute path then path
  else if base == "" || endsInSlash base then base ++ path
  else base ++ "/" ++ path

/-- The parts of a text between its slashes, empty ones too. -/
def parts : List Char → List (List Char)
  | [] => [[]]
  | c :: cs =>
    if c = '/' then [] :: parts cs
    else
      match parts cs with
      | [] => [[c]]
      | part :: rest => (c :: part) :: rest

/-- The names that a path passes through; there are none between repeated slashes. -/
def names (path : String) : List String :=
  ((parts path.toList).filter (· != [])).map String.ofList

/-- A path taken apart at its last slash that does not end it. -/
def splitLast (path : String) : String × String :=
  if fileName path = "" then (directory (directory path), fileName (directory path))
  else (directory path, fileName path)

/-- Folder and name together are no longer than the path. -/
theorem length_directory_add_fileName (path : String) :
    (directory path).length + (fileName path).length ≤ path.length := by
  have h := congrArg List.length (divide_append path.toList)
  have h' := length_trimSlashes_le (divide path.toList).1
  simp only [List.length_append, String.length_toList] at h
  simp only [directory, fileName, String.length_ofList]
  omega

/-- The folder above a path and the name in it, if the path tells both. -/
def parent? (path : String) : Option (String × String) :=
  let (parent, name) := splitLast path
  if parent = "" ∨ name = "" then none else some (parent, name)

theorem length_parent_lt {path parent name : String} (h : parent? path = some (parent, name)) :
    parent.length < path.length := by
  have outer := length_directory_add_fileName path
  have inner := length_directory_add_fileName (directory path)
  have pos (s : String) (hs : s ≠ "") : 0 < s.length :=
    Nat.pos_of_ne_zero fun h0 => hs (String.length_eq_zero_iff.mp h0)
  unfold parent? splitLast at h
  by_cases hn : fileName path = ""
  · simp only [hn, ↓reduceIte, Option.ite_none_left_eq_some, not_or, Option.some.injEq,
      Prod.mk.injEq] at h
    obtain ⟨⟨_, hne⟩, rfl, rfl⟩ := h
    have := pos _ hne
    omega
  · simp only [hn, ↓reduceIte, Option.ite_none_left_eq_some, not_or, Option.some.injEq,
      Prod.mk.injEq] at h
    obtain ⟨⟨_, hne⟩, rfl, rfl⟩ := h
    have := pos _ hn
    omega

/-- A path without the names `.` and without needless slashes; the empty path is `.`. -/
def tidy (path : String) : String :=
  let lead := path.toList.takeWhile (· == '/')
  let lead := if lead.length = 2 then "//" else if lead.isEmpty then "" else "/"
  let rest := lead ++ "/".intercalate ((names path).filter (· != "."))
  if rest == "" then "." else rest

end DeclGen.Path
