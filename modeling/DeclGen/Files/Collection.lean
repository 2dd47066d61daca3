import DeclGen.Files.Glob
import DeclGen.Files.Naming

/-!
The schema files that arguments ask for. An argument that names a folder asks for the schema files
in it, any other argument is a pattern. What the excluding patterns stand for is taken away, and the
rest is sorted. Paths are compared as texts.
-/

namespace DeclGen

/-- Puts a path into an ascending list, once. -/
def insertPath (path : String) : List String → List String
  | [] => [path]
  | p :: rest =>
    if path < p then path :: p :: rest
    else if path = p then p :: rest
    else p :: insertPath path rest

/-- The paths of a list in ascending order, each once. -/
def sortedPaths (paths : List String) : List String := paths.foldr insertPath []

theorem mem_insertPath {path p : String} {paths : List String} :
    p ∈ insertPath path paths ↔ p = path ∨ p ∈ paths := by
  induction paths with
  | nil => simp [insertPath]
  | cons q rest ih =>
    unfold insertPath
    split
    · simp
    · split
      · next h => subst h; simp
      · simp only [List.mem_cons, ih]
        constructor
        · rintro (h | h | h)
          · exact .inr (.inl h)
          · exact .inl h
          · exact .inr (.inr h)
        · rintro (h | h | h)
          · exact .inr (.inl h)
          · exact .inl h
          · exact .inr (.inr h)

theorem mem_sortedPaths {p : String} {paths : List String} : p ∈ sortedPaths paths ↔ p ∈ paths := by
  induction paths with
  | nil => simp [sortedPaths]
  | cons q rest ih =>
    rw [sortedPaths, List.foldr_cons, ← sortedPaths, mem_insertPath, ih, List.mem_cons]

theorem pairwise_insertPath {path : String} {paths : List String}
    (h : paths.Pairwise (· < ·)) : (insertPath path paths).Pairwise (· < ·) := by
  induction h with
  | nil => simp [insertPath]
  | @cons q rest hq hrest ih =>
    unfold insertPath
    split
    · next hlt =>
      refine .cons ?_ (.cons hq hrest)
      intro p hp
      rcases List.mem_cons.mp hp with rfl | hp
      · exact hlt
      · exact String.lt_trans hlt (hq p hp)
    · next hlt =>
      split
      · exact .cons hq hrest
      · next hne =>
        refine .cons ?_ ih
        intro p hp
        rcases mem_insertPath.mp hp with rfl | hp
        · exact String.not_le.mp fun hle => hne (String.le_antisymm hle (String.not_lt.mp hlt))
        · exact hq p hp

/-- Sorted paths ascend strictly. -/
theorem pairwise_sortedPaths (paths : List String) : (sortedPaths paths).Pairwise (· < ·) := by
  induction paths with
  | nil => exact .nil
  | cons q rest ih => exact pairwise_insertPath ih

namespace Workspace

/-- The schema files directly in a folder. -/
def schemasIn (w : Workspace) (folder : String) : List String :=
  (w.children folder).filterMap fun
    | (name, .file _) => if isSchemaName name then some (Path.join folder name) else none
    | _ => none

/-- The schema files anywhere below a folder. -/
def schemasBelow (w : Workspace) (folder : String) : List String :=
  (w.below folder).filterMap fun
    | (names, .file _) =>
      if isSchemaName (names.getLastD "") then some (Path.join folder ("/".intercalate names))
      else none
    | _ => none

/-- The paths that one argument asks for. -/
def selected (w : Workspace) (recursive : Bool) (path : String) : List String :=
  if w.isFolder path then if recursive then w.schemasBelow path else w.schemasIn path
  else w.glob path recursive

/-- The schema files that arguments ask for, where those are relative to a root folder. -/
def collect (w : Workspace) (paths excludes : List String) (recursive : Bool) (root : String) :
    List String :=
  let excluded := excludes.flatMap fun path => w.glob (Path.join root path) recursive
  let found := paths.flatMap fun path => w.selected recursive (Path.join root path)
  sortedPaths (found.filter (!excluded.contains ·))

end Workspace

end DeclGen
