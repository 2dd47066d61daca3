/-!
Double-quoted literals. A backslash, a double quote and a line feed are escaped, every other
character stands for itself; `unquote` reads a literal back from behind its opening quote.
-/

namespace DeclGen.Text

/-- The written form of one character inside a double-quoted literal. -/
def escapeChar (c : Char) : List Char :=
  if c = '\\' then ['\\', '\\']
  else if c = '\x22' then ['\\', '\x22']
  else if c = '\n' then ['\\', 'n']
  else [c]

def escape (cs : List Char) : List Char := cs.flatMap escapeChar

/-- A text as a double-quoted literal: `Foo.Bar` becomes `"Foo.Bar"`. -/
def quoted (text : String) : String :=
  String.ofList ('\x22' :: (escape text.toList ++ ['\x22']))

/-- Reads the rest of a literal up to its closing quote, and what follows that quote. -/
def unquote : List Char → Option (List Char × List Char)
  | [] => none
  | [c] => if c = '\x22' then some ([], []) else none
  | c :: d :: rest =>
    if c = '\x22' then some ([], d :: rest)
    else if c = '\\' ∧ (d = '\\' ∨ d = '\x22') then
      (unquote rest).map fun (text, left) => (d :: text, left)
    else if c = '\\' ∧ d = 'n' then
      (unquote rest).map fun (text, left) => ('\n' :: text, left)
    else
      (unquote (d :: rest)).map fun (text, left) => (c :: text, left)

end DeclGen.Text
