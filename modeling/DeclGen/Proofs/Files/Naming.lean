import DeclGen.Files.Naming
import DeclGen.Proofs.Files.Workspace

/-!
The declaration files in one output folder. The name of a file is the stem of the schema file and
the extension, so schema files with one stem share a file and all others are kept apart.
-/

namespace DeclGen

namespace Path

theorem mem_of_mem_dropExtension {c : Char} {cs : List Char} (h : c ∈ dropExtension cs) :
    c ∈ cs := by
  unfold dropExtension at h
  split at h
  · have htail := List.mem_of_mem_tail (List.mem_reverse.mp h)
    exact List.mem_reverse.mp ((List.dropWhile_suffix _).mem htail)
  · exact h

theorem mem_of_mem_stem {c : Char} {name : String} (h : c ∈ (stem name).toList) :
    c ∈ name.toList := by
  rw [stem, String.toList_ofList, List.mem_append] at h
  rcases h with hdots | hrest
  · exact (List.takeWhile_prefix _).mem hdots
  · exact (List.dropWhile_suffix _).mem (mem_of_mem_dropExtension hrest)

end Path

/-- The name of the declaration file of a schema file. -/
def declarationName (schemaPath : String) : String :=
  Path.stem (Path.fileName schemaPath) ++ declarationSuffix

theorem isProperName_declarationName (schemaPath : String) :
    IsProperName (declarationName schemaPath) := by
  have hlength : 5 ≤ (declarationName schemaPath).length := by
    rw [declarationName, String.length_append]
    exact Nat.le_add_left 5 _
  have hshort : ∀ name : String, name.length < 5 → declarationName schemaPath ≠ name := by
    rintro name hname rfl
    omega
  refine ⟨hshort _ (by decide), ?_, hshort _ (by decide), hshort _ (by decide)⟩
  rw [declarationName, String.toList_append, List.mem_append, not_or]
  exact ⟨fun h => Path.noSlash_fileName schemaPath (Path.mem_of_mem_stem h), by decide⟩

theorem isAbsolute_declarationName (schemaPath : String) :
    Path.isAbsolute (declarationName schemaPath) = false :=
  Path.isAbsolute_eq_false_of_noSlash (isProperName_declarationName schemaPath).2.1

/-- A declaration file has the last name on its path. -/
theorem names_outputPath (schemaPath folder : String) : ∃ above,
    Path.names (outputPath schemaPath folder) = above ++ [declarationName schemaPath] := by
  have hjoin := Path.names_join (if folder == "" then Path.directory schemaPath else folder)
    (isAbsolute_declarationName schemaPath)
  rw [Path.names_of_proper (isProperName_declarationName schemaPath)] at hjoin
  exact ⟨_, hjoin⟩

variable {folder : String}

theorem outputPath_eq_join (schemaPath : String) (h : folder ≠ "") :
    outputPath schemaPath folder = Path.join folder (declarationName schemaPath) := by
  rw [outputPath, beq_false_of_ne h]
  rfl

/-- In one folder the name tells the file. -/
theorem outputPath_inj {p q : String} (h : folder ≠ "") :
    outputPath p folder = outputPath q folder ↔ declarationName p = declarationName q := by
  constructor
  · intro hpath
    rw [outputPath_eq_join p h, outputPath_eq_join q h, Path.join, Path.join,
      isAbsolute_declarationName, isAbsolute_declarationName, if_neg Bool.false_ne_true,
      if_neg Bool.false_ne_true] at hpath
    split at hpath
    · exact (String.append_right_inj _).mp hpath
    · exact (String.append_right_inj _).mp hpath
  · intro hname
    rw [outputPath_eq_join p h, outputPath_eq_join q h, hname]

namespace Workspace

variable {w w' : Workspace} {place : Location} {bytes : List UInt8}

theorem place_outputPath {schemaPath : String} (h : folder ≠ "") :
    w.place (outputPath schemaPath folder) = .ok place ↔
      ∃ above, w.find folder = .ok (above, .folder) ∧
        place = above ++ [declarationName schemaPath] := by
  rw [outputPath_eq_join schemaPath h]
  exact place_join_proper h (isProperName_declarationName schemaPath)

/-- Writing one declaration file leaves the others in its folder as they are. -/
theorem read_write_outputPath {p q : String} (h : folder ≠ "")
    (hne : outputPath q folder ≠ outputPath p folder)
    (hwrite : w.write (outputPath p folder) bytes = .ok w') :
    w'.read (outputPath q folder) = w.read (outputPath q folder) := by
  obtain ⟨place, hplace, _⟩ := write_eq_ok.mp hwrite
  obtain ⟨above, hfolder, rfl⟩ := (place_outputPath h).mp hplace
  refine read_write_of_ne hwrite hplace ((place_outputPath h).mpr ⟨above, hfolder, rfl⟩) ?_
  intro hsame
  apply hne
  rw [outputPath_inj h]
  simpa using hsame

end Workspace

end DeclGen
