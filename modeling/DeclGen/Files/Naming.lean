import DeclGen.Files.Path

/-!
The names of schema files, and of the declaration files that belong to them.
-/

namespace DeclGen

/-- The extension of the files that hold interface descriptions. -/
def schemaSuffix : String := ".xml"

/-- The extension of the files that hold declarations. -/
def declarationSuffix : String := ".d.ts"

def isSchemaName (name : String) : Bool := schemaSuffix.toList.isSuffixOf name.toList

/-- The declaration file of a schema file: beside it, or in the output folder if one is given. -/
def outputPath (schemaPath outputFolder : String) : String :=
  let folder := if outputFolder == "" then Path.directory schemaPath else outputFolder
  Path.join folder (Path.stem (Path.fileName schemaPath) ++ declarationSuffix)

end DeclGen
