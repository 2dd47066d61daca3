import DeclGen.Declaration.Basic
import DeclGen.Text.IntegerLiteral

/-!
Values of the members of a discrete enum. A written value is read as an integer literal; a member
without one follows its predecessor by one, and the first member starts at zero.
-/

namespace DeclGen

open Text

/-- Values of members, where `next` is the value of the first one if none is written for it. -/
def numberFrom (next : Int) : List EnumMember → Except LiteralFault (List Int)
  | [] => .ok []
  | m :: ms => do
    let value ← match m.value with
      | some text => readInteger text
      | none => pure next
    return value :: (← numberFrom (value + 1) ms)

/-- The value of every member, in member order. -/
def DiscreteEnum.resolvedValues (e : DiscreteEnum) : Except LiteralFault (List Int) :=
  numberFrom 0 e.members

end DeclGen
