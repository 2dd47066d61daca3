import DeclGen.Text.Printable

/-!
Texts inside diagnostics. A text is shown between single quotes, or between double quotes if it
holds a single quote and no double quote; what cannot be printed is shown by its number.
-/

namespace DeclGen.Text

def hexDigit (n : Nat) : Char :=
  if n < 10 then Char.ofNat (48 + n) else Char.ofNat (87 + n)

/-- The lowest `width` hexadecimal digits of a number, lower case. -/
def hexDigits : (width : Nat) → Nat → List Char
  | 0, _ => []
  | width + 1, n => hexDigits width (n / 16) ++ [hexDigit (n % 16)]

/-- One character inside a displayed text with the given quote. -/
def displayChar (quote c : Char) : List Char :=
  if c = '\\' ∨ c = quote then ['\\', c]
  else if c = '\n' then ['\\', 'n']
  else if c = '\r' then ['\\', 'r']
  else if c = '\t' then ['\\', 't']
  else if isPrintable c then [c]
  else if c.toNat < 0x100 then '\\' :: 'x' :: hexDigits 2 c.toNat
  else if c.toNat < 0x10000 then '\\' :: 'u' :: hexDigits 4 c.toNat
  else '\\' :: 'U' :: hexDigits 8 c.toNat

def displayQuote (cs : List Char) : Char :=
  if cs.contains '\x27' && !cs.contains '\x22' then '\x22' else '\x27'

/-- A text as a diagnostic shows it. -/
def display (text : String) : String :=
  let quote := displayQuote text.toList
  String.ofList (quote :: (text.toList.flatMap (displayChar quote) ++ [quote]))

/-- A list of texts as a diagnostic shows it: `['a', 'b']`. -/
def displayList (texts : List String) : String :=
  "[" ++ ", ".intercalate (texts.map display) ++ "]"

/-- The first `limit` characters of a text. -/
def cut (limit : Nat) (text : String) : String :=
  String.ofList (text.toList.take limit)

end DeclGen.Text
