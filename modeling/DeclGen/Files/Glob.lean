import DeclGen.Files.Wildcard
import DeclGen.Files.Workspace

/-!
Patterns for paths. A pattern holds wildcards in some of its names; the part before the first of
those names is a folder that is taken as it is, and the home folder if nothing stands there. In a
recursive search the name `**` stands for any number of folders.
-/

namespace DeclGen

/-- A folder and the names, with or without wildcards, that are looked for below it. An empty last
name asks for folders. -/
structure Glob where
  base : String
  names : List String
  deriving DecidableEq, Repr

def isHidden (name : String) : Bool := name.toList.head? == some '.'

/-- Stands for any number of folders in a recursive search. -/
def deepName : String := "**"

/-- Names that are looked for one below another: those between repeated slashes do not count, but an
empty one at the end does. -/
def searchNames : List String → List String
  | [] => []
  | [name] => [name]
  | name :: rest => if name = "" then searchNames rest else name :: searchNames rest

/-- The folder and the names of a pattern that holds wildcards. -/
def Glob.ofPattern (pattern : String) : Glob :=
  let parts := (Path.parts pattern.toList).map String.ofList
  let fixed := parts.takeWhile (!hasWildcard ·)
  { base := String.ofList (Path.trimSlashes (fixed.flatMap fun part => part.toList ++ ['/']))
    names := searchNames (parts.dropWhile (!hasWildcard ·)) }

/-- The folder whose contents a search lists. It lists the home folder where no path leads yet. -/
def listedFolder (folder : String) : String := if folder = "" then "." else folder

namespace Workspace

/-- A node that a search wants: any, or only folders. -/
def isWanted (foldersOnly : Bool) (node : FileNode) : Bool := !foldersOnly || node = .folder

/-- The names in a folder that a pattern stands for. Hidden ones need a pattern with a dot at its
start. -/
def matchingNames (w : Workspace) (folder pattern : String) (foldersOnly : Bool) : List String :=
  ((w.children (listedFolder folder)).filter fun (name, node) => isWanted foldersOnly node &&
    (isHidden pattern || !isHidden name) && nameMatches pattern name).map (·.1)

/-- The folder itself, as an empty path, and all below it that is not hidden. -/
def deepNames (w : Workspace) (folder : String) (foldersOnly : Bool) : List String :=
  if w.isFolder (listedFolder folder) then
    "" :: ((w.below (listedFolder folder)).filter fun (names, node) => isWanted foldersOnly node &&
      names.all (!isHidden ·)).map fun (names, _) => "/".intercalate names
  else []

/-- The paths from a folder that one name of a pattern stands for. -/
def searchName (w : Workspace) (recursive foldersOnly : Bool) (folder name : String) :
    List String :=
  if recursive && name == deepName then w.deepNames folder foldersOnly
  else if hasWildcard name then w.matchingNames folder name foldersOnly
  else if name = "" then if w.isFolder folder then [""] else []
  else if w.isPresent (Path.join folder name) then [name] else []

/-- The paths that names stand for, one below another. All but the last must be folders. -/
def search (w : Workspace) (recursive : Bool) (folders : List String) : List String → List String
  | [] => folders
  | name :: rest =>
    w.search recursive
      (folders.flatMap fun folder =>
        (w.searchName recursive (!rest.isEmpty) folder name).map (Path.join folder)) rest

/-- The paths that a pattern stands for. A pattern without wildcards stands for itself if something
stands there. The home folder has no path of its own, and is not among those found. -/
def glob (w : Workspace) (pattern : String) (recursive : Bool) : List String :=
  if hasWildcard pattern then
    let g := Glob.ofPattern pattern
    (w.search recursive [g.base] g.names).filter (· ≠ "")
  else if w.isPresent pattern then [pattern] else []

end Workspace

end DeclGen
