import DeclGen.Files.Tree

/-!
A tree as a run sees it: paths lead to places in it, from the root or from a home folder. Files are
read and written, and folders made, by their paths.
-/

namespace DeclGen

/-- A tree and the folder that relative paths start from. -/
structure Workspace where
  tree : FileTree
  home : Location
  deriving DecidableEq, Repr

namespace Workspace

/-- The absolute path of the home folder. -/
def homePath (w : Workspace) : String := "/" ++ "/".intercalate w.home

/-- The place that a path names, whether or not something stands there. -/
def place (w : Workspace) (path : String) : Except FileFault Location :=
  if path = "" then .error .missing
  else w.tree.follow (if Path.isAbsolute path then [] else w.home) (Path.names path)

/-- What a path leads to. A path that ends in a slash leads to folders only. -/
def find (w : Workspace) (path : String) : Except FileFault (Location × FileNode) :=
  match w.place path with
  | .error fault => .error fault
  | .ok place =>
    match w.tree.node? place with
    | none => .error .missing
    | some .folder => .ok (place, .folder)
    | some (.file bytes) =>
      if Path.endsInSlash path then .error .notFolder else .ok (place, .file bytes)

/-- Something stands where a path leads. -/
def isPresent (w : Workspace) (path : String) : Bool := (w.find path).toOption.isSome

/-- A path leads to a folder. -/
def isFolder (w : Workspace) (path : String) : Bool :=
  match w.find path with
  | .ok (_, .folder) => true
  | _ => false

/-- All that lies below the folder at a path; nothing if there is no folder. -/
def below (w : Workspace) (path : String) : List (Location × FileNode) :=
  match w.find path with
  | .ok (place, .folder) => w.tree.below place
  | _ => []

/-- What lies directly in the folder at a path. -/
def children (w : Workspace) (path : String) : List (String × FileNode) :=
  (w.below path).filterMap fun
    | ([name], node) => some (name, node)
    | _ => none

def read (w : Workspace) (path : String) : Except FileError (List UInt8) :=
  match w.find path with
  | .ok (_, .file bytes) => .ok bytes
  | .ok (_, .folder) => .error ⟨.isFolder, path⟩
  | .error fault => .error ⟨fault, path⟩

/-- The place of a file that is to be written: in a folder, and no folder itself. -/
def target (w : Workspace) (path : String) : Except FileFault Location :=
  match w.place path with
  | .error fault => .error fault
  | .ok place =>
    if Path.endsInSlash path ∨ w.tree.node? place = some .folder then .error .isFolder
    else .ok place

/-- Writes a file, in place of the one that stood there. -/
def write (w : Workspace) (path : String) (bytes : List UInt8) : Except FileError Workspace :=
  match w.target path with
  | .error fault => .error ⟨fault, path⟩
  | .ok place => .ok { w with tree := w.tree.put place (.file bytes) }

/-- Makes one folder. An existing folder stays as it is. -/
def makeFolder (w : Workspace) (path : String) : Except FileError Workspace :=
  match w.place path with
  | .error fault => .error ⟨fault, path⟩
  | .ok place =>
    match w.tree.node? place with
    | none => .ok { w with tree := w.tree.put place .folder }
    | some _ => if w.isFolder path then .ok w else .error ⟨.present, path⟩

/-- Makes one folder in a tree that a failure leaves as it is. -/
def withFolder (w : Workspace) (path : String) : Except FileError Unit × Workspace :=
  match w.makeFolder path with
  | .ok w' => (.ok (), w')
  | .error e => (.error e, w)

/-- Makes a folder and first the folders above it that are missing. Folders made before a failure
stay. -/
def makeFolders (w : Workspace) (path : String) : Except FileError Unit × Workspace :=
  match _ : Path.parent? path with
  | none => w.withFolder path
  | some (parent, name) =>
    if w.isPresent parent then w.withFolder path
    else
      match w.makeFolders parent with
      | (.ok (), w') => if name = "." then (.ok (), w') else w'.withFolder path
      | (.error e, w') =>
        if e.fault ≠ .present then (.error e, w')
        else if name = "." then (.ok (), w') else w'.withFolder path
termination_by path.length
decreasing_by exact Path.length_parent_lt ‹_›

end Workspace

end DeclGen
