import DeclGen.Text.Blank
import DeclGen.Text.Digit
import DeclGen.Text.Display

/-!
Integer literals: blanks around, an optional sign, then decimal digits or a radix mark `0x`, `0o`,
`0b` with digits of that radix. Single underscores may stand between digits and behind the mark.
Decimal literals have no leading zeros, unless all their digits are zero, and a limited length.
-/

namespace DeclGen.Text

/-- Why a text is no integer literal. -/
inductive LiteralFault where
  | malformed (text : String)
  | tooLong (digits : Nat)
  deriving DecidableEq, Repr

/-- Decimal literals with more digits are refused. -/
def maxDecimalDigits : Nat := 4300

def LiteralFault.message : LiteralFault → String
  | .malformed text => "invalid literal for int() with base 0: " ++ cut 200 (display text)
  | .tooLong digits =>
    s!"Exceeds the limit ({maxDecimalDigits} digits) for integer string conversion: " ++
      s!"value has {digits} digits; use sys.set_int_max_str_digits() to increase the limit"

/-- The value of a digit in radix up to sixteen. Decimal digits of all scripts count. -/
def digitValue? (c : Char) : Option Nat :=
  match decimalValue? c with
  | some value => some value
  | none =>
    if 'a' ≤ c ∧ c ≤ 'f' then some (c.toNat - 87)
    else if 'A' ≤ c ∧ c ≤ 'F' then some (c.toNat - 55)
    else none

def radixDigit? (radix : Nat) (c : Char) : Option Nat :=
  (digitValue? c).filter (· < radix)

/-- Digits of a radix with single underscores between them, and the text behind them. There is no
result if an underscore does not stand between two digits. -/
def digitRun (radix : Nat) : List Char → Option (List Nat × List Char)
  | [] => some ([], [])
  | c :: rest =>
    match radixDigit? radix c with
    | none => if c = '_' then none else some ([], c :: rest)
    | some value =>
      match rest with
      | '_' :: d :: more =>
        if (radixDigit? radix d).isSome then
          (digitRun radix (d :: more)).map fun (values, left) => (value :: values, left)
        else none
      | ['_'] => none
      | more => (digitRun radix more).map fun (values, left) => (value :: values, left)

def numeral (radix : Nat) (values : List Nat) : Nat :=
  values.foldl (fun total value => total * radix + value) 0

/-- The radix that a mark letter stands for. -/
def markRadix? (c : Char) : Option Nat :=
  if c = 'x' ∨ c = 'X' then some 16
  else if c = 'o' ∨ c = 'O' then some 8
  else if c = 'b' ∨ c = 'B' then some 2
  else none

def isZeroDigit (c : Char) : Bool := decimalValue? c == some 0

/-- The radix of an unsigned literal and its digits, without the mark and an underscore there. -/
def splitMark (cs : List Char) : Nat × List Char :=
  match cs with
  | first :: mark :: rest =>
    match markRadix? mark with
    | some radix =>
      if isZeroDigit first then (radix, if rest.head? = some '_' then rest.tail else rest)
      else (10, cs)
    | none => (10, cs)
  | _ => (10, cs)

/-- The sign of a literal and the text behind it. -/
def splitSign : List Char → Int × List Char
  | '-' :: rest => (-1, rest)
  | '+' :: rest => (1, rest)
  | cs => (1, cs)

/-- The value of an integer literal. -/
def readInteger (text : String) : Except LiteralFault Int :=
  let (sign, unsigned) := splitSign (text.toList.dropWhile isBlank)
  let (radix, body) := splitMark unsigned
  match digitRun radix body with
  | none => .error (.malformed text)
  | some (values, rest) =>
    if radix = 10 ∧ maxDecimalDigits < values.length then .error (.tooLong values.length)
    else if values = [] then .error (.malformed text)
    else if radix = 10 ∧ values.head? = some 0 ∧ numeral radix values ≠ 0 then
      .error (.malformed text)
    else if rest.all isBlank then .ok (sign * numeral radix values)
    else .error (.malformed text)

end DeclGen.Text
