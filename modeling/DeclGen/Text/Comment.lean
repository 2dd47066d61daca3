/-!
Block comments. The text of a comment must not close it early, so each `*/` inside it is written
with a backslash between its two characters.
-/

namespace DeclGen.Text

/-- Breaks every comment terminator in a text. -/
def breakTerminators : List Char → List Char
  | [] => []
  | [c] => [c]
  | c :: d :: rest =>
    if c = '*' ∧ d = '/' then '*' :: '\\' :: '/' :: breakTerminators rest
    else c :: breakTerminators (d :: rest)

/-- A line of documentation as a comment: `/** text */`. -/
def docComment (text : String) : String :=
  "/** " ++ String.ofList (breakTerminators text.toList) ++ " */"

end DeclGen.Text
