import DeclGen.Files.Path
import DeclGen.Text.Display

/-!
A tree of files and folders. A place in it is the list of names from the root; names lead from one
place to another through folders that exist.
-/

namespace DeclGen

/-- The names from the root of a tree down to a place. -/
abbrev Location := List String

inductive FileNode where
  | folder
  | file (bytes : List UInt8)
  deriving DecidableEq, Repr

structure FileTree where
  entries : List (Location × FileNode)
  deriving DecidableEq, Repr

/-- Why a place cannot be reached, read or written. -/
inductive FileFault where
  | missing
  | present
  | notFolder
  | isFolder
  deriving DecidableEq, Repr

def FileFault.number : FileFault → Nat
  | missing => 2
  | present => 17
  | notFolder => 20
  | isFolder => 21

def FileFault.wording : FileFault → String
  | missing => "No such file or directory"
  | present => "File exists"
  | notFolder => "Not a directory"
  | isFolder => "Is a directory"

/-- A fault at a path, which is shown as it was asked for. -/
structure FileError where
  fault : FileFault
  path : String
  deriving DecidableEq, Repr

def FileError.message (e : FileError) : String :=
  "[Errno " ++ toString e.fault.number ++ "] " ++ e.fault.wording ++ ": " ++ Text.display e.path

/-- Changes the node at a place, or adds the place behind all others. -/
def putEntry (place : Location) (node : FileNode) :
    List (Location × FileNode) → List (Location × FileNode)
  | [] => [(place, node)]
  | (p, n) :: rest => if p = place then (p, node) :: rest else (p, n) :: putEntry place node rest

theorem lookup_putEntry (place other : Location) (node : FileNode)
    (entries : List (Location × FileNode)) :
    (putEntry place node entries).lookup other =
      if other = place then some node else entries.lookup other := by
  induction entries with
  | nil =>
    by_cases h : other = place
    · simp [putEntry, h]
    · simp [putEntry, List.lookup_cons, h, beq_false_of_ne h]
  | cons e rest ih =>
    obtain ⟨p, n⟩ := e
    unfold putEntry
    split
    · next hp =>
      subst hp
      by_cases h : other = p
      · simp [h]
      · simp [List.lookup_cons, h, beq_false_of_ne h]
    · next hp =>
      by_cases h : other = p
      · subst h; simp [hp]
      · simp [List.lookup_cons, beq_false_of_ne h, ih]

namespace FileTree

def empty : FileTree := ⟨[]⟩

/-- The node at a place. The root is always a folder. -/
def node? (t : FileTree) (place : Location) : Option FileNode :=
  if place = [] then some .folder else t.entries.lookup place

def put (t : FileTree) (place : Location) (node : FileNode) : FileTree :=
  ⟨putEntry place node t.entries⟩

/-- Putting a node changes what stands at its place, and nothing else. -/
theorem node?_put (t : FileTree) {place : Location} (other : Location) (node : FileNode)
    (h : place ≠ []) :
    (t.put place node).node? other = if other = place then some node else t.node? other := by
  by_cases ho : other = []
  · subst ho
    simp [node?, Ne.symm h]
  · simp only [node?, ho, ↓reduceIte, put, lookup_putEntry]

/-- Adds a file together with the folders above it. -/
def putDeep (t : FileTree) (place : Location) (node : FileNode) : FileTree :=
  let folders := (List.range place.length).map (place.take ·)
  (folders.foldl (fun t folder => if (t.node? folder).isSome then t else t.put folder .folder)
    t).put place node

/-- The place that names lead to from a folder. Every name needs a folder to look in; the last one
need not exist. -/
def follow (t : FileTree) (place : Location) : List String → Except FileFault Location
  | [] => .ok place
  | name :: rest =>
    match t.node? place with
    | none => .error .missing
    | some (.file _) => .error .notFolder
    | some .folder =>
      if name = "." then t.follow place rest
      else if name = ".." then t.follow place.dropLast rest
      else t.follow (place ++ [name]) rest

/-- All that lies below a place, named from there. -/
def below (t : FileTree) (place : Location) : List (Location × FileNode) :=
  t.entries.filterMap fun (p, node) =>
    if place.isPrefixOf p && place.length < p.length then some (p.drop place.length, node)
    else none

end FileTree

end DeclGen
