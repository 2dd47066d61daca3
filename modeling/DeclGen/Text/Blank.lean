/-!
Blanks around a number: space, the five controls from tab to carriage return, and the blanks
beyond ASCII.
-/

namespace DeclGen.Text

/-- Blanks beyond ASCII, as ranges of first and last character. -/
def wideBlanks : List (Nat × Nat) :=
  [(0x85, 0x85), (0xA0, 0xA0), (0x1680, 0x1680), (0x2000, 0x200A), (0x2028, 0x2029),
  (0x202F, 0x202F), (0x205F, 0x205F), (0x3000, 0x3000)]

def isBlank (c : Char) : Bool :=
  c == ' ' || (9 ≤ c.toNat && c.toNat ≤ 13) ||
    wideBlanks.any fun (first, last) => first ≤ c.toNat && c.toNat ≤ last

end DeclGen.Text
