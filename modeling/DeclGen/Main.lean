import DeclGen.Batch.Command

/-!
The program: it surveys the file system, runs the command on what it found, and carries the changes
out.
-/

namespace DeclGen

def usage : String :=
  "usage: declgen [-h] [-p PATHS [PATHS ...]] [-e EXCLUDES [EXCLUDES ...]]\n" ++
  "               [-o OUTPUT_DIR] [--check] [-v] [-r]"

def pathOf (place : Location) : String := "/" ++ "/".intercalate place

/-- The place that names lead to, where each `..` takes back the name before it. -/
def settle (place : Location) : List String → Location
  | [] => place
  | name :: rest =>
    if name = "." then settle place rest
    else if name = ".." then settle place.dropLast rest
    else settle (place ++ [name]) rest

/-- The place that a pattern is searched from. -/
def searchPlace (home : Location) (pattern : String) : Location :=
  settle (if Path.isAbsolute pattern then [] else home)
    ((Path.names pattern).takeWhile (!hasWildcard ·))

/-- Surveys what lies at a place, down to a depth. The contents of files are left out. -/
def survey : Nat → FileTree → Location → IO FileTree
  | 0, tree, _ => return tree
  | depth + 1, tree, place => do
    let entries ← try some <$> ((← IO.currentDir) / pathOf place).readDir catch _ => pure none
    match entries with
    | some entries =>
      entries.foldlM (fun tree entry => survey depth tree (place ++ [entry.fileName]))
        (tree.putDeep place .folder)
    | none =>
      try
        let _ ← IO.FS.Handle.mk (pathOf place) .read
        return tree.putDeep place (.file [])
      catch _ => return tree

/-- Adds the contents of files to a workspace. -/
def readFiles (w : Workspace) (paths : List String) : IO Workspace :=
  paths.foldlM (fun w path => do
    match w.find path with
    | .ok (place, .file _) =>
      let bytes ← IO.FS.readBinFile path
      return { w with tree := w.tree.put place (.file bytes.toList) }
    | _ => return w) w

/-- Carries out what a run has changed in a tree. -/
def carryOut (old new : FileTree) : IO Unit :=
  new.entries.forM fun (place, node) => do
    if old.node? place ≠ some node then
      match node with
      | .folder => IO.FS.createDir (pathOf place)
      | .file bytes => IO.FS.writeBinFile (pathOf place) ⟨bytes.toArray⟩

/-- Reads a stream to its end. -/
partial def readAll (stream : IO.FS.Stream) (read : ByteArray) : IO ByteArray := do
  let chunk ← stream.read 65536
  if chunk.isEmpty then return read else readAll stream (read ++ chunk)

/-- The session of a command line: the places that it can reach, and the documents that it reads. -/
def openSession (o : Options) : IO Session := do
  let home := Path.names (← IO.currentDir).toString
  let places := home :: (o.outputFolder :: o.paths ++ o.excludes).map (searchPlace home)
  let tree ← places.foldlM (survey 100) FileTree.empty
  let input ← if o.paths.isEmpty then readAll (← IO.getStdin) .empty else pure .empty
  let s := Session.start ⟨tree, home⟩ input.toList .notInstalled
  return { s with workspace := ← readFiles s.workspace (s.schemas o) }

end DeclGen

open DeclGen in
def main (arguments : List String) : IO UInt32 := do
  match Options.ofArguments arguments with
  | .error stop =>
    if stop = .help then IO.println usage else IO.eprintln usage
    return stop.exitCode.toUInt32
  | .ok o =>
    let s ← openSession o
    let (code, finished) := s.execute o
    carryOut s.workspace.tree finished.workspace.tree
    IO.print finished.output
    IO.eprint finished.logText
    match code with
    | .ok code => return code.toUInt32
    | .error e =>
      IO.eprintln e.message
      return 1
