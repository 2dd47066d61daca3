import DeclGen.Declaration.Printer

/-!
A complete source file: the line that marks it as generated, the line that silences the linter, and
the lines of its declarations.
-/

namespace DeclGen

def generatedMarker (generator : String) : String :=
  "// Automatically generated by " ++ generator ++ ". DO NOT MODIFY MANUALLY."

def lintDirective : String :=
  "/* tslint:disable:max-line-length no-namespace no-empty-interface jsdoc-format */"

def sourceLines (declarations : List Declaration) (generator : String) : List String :=
  generatedMarker generator :: lintDirective :: printedLines declarations

/-- The source text of declarations. Every line, the last one too, ends in a line feed. -/
def sourceText (declarations : List Declaration) (generator : String) : String :=
  "\n".intercalate (sourceLines declarations generator) ++ "\n"

end DeclGen
