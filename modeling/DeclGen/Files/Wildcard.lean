/-!
Wildcards in names: `*` stands for any characters, `?` for any one, and `[...]` for one of a set.
All other characters, and a bracket that is never closed, stand for themselves.
-/

namespace DeclGen

/-- A part of a set: one character, or all from one to another. -/
inductive SetItem where
  | single (c : Char)
  | range (first last : Char)
  deriving DecidableEq, Repr

def SetItem.holds (c : Char) : SetItem → Bool
  | single d => c == d
  | range first last => first ≤ c && c ≤ last

def SetItem.isReversed : SetItem → Bool
  | single _ => false
  | range first last => last < first

inductive Wildcard where
  | star
  | any
  | literal (c : Char)
  | set (negated : Bool) (items : List SetItem)
  deriving DecidableEq, Repr

namespace Wildcard

/-- The set of all that items hold. A first `!` turns it around; where that began a range, the
hyphen and the end of the range are characters of their own. -/
def ofItems : List SetItem → Wildcard
  | .single '!' :: items => set true items
  | .range '!' last :: items => set true (.single '-' :: .single last :: items)
  | items => set false items

/-- The parts of a set between its brackets. A hyphen between two characters makes a range. -/
def setItems : List Char → List SetItem
  | first :: '-' :: last :: rest => .range first last :: setItems rest
  | c :: rest => .single c :: setItems rest
  | [] => []

/-- The set written between brackets. Ranges from a later to an earlier character are dropped before
the `!` of a negation is looked for. -/
def ofSet : List Char → Wildcard
  | '!' :: cs => ofItems (.single '!' :: (setItems cs).filter (!·.isReversed))
  | cs => ofItems ((setItems cs).filter (!·.isReversed))

/-- The number of characters at the start of a set that cannot close it: a `!`, and a closing
bracket there or behind the `!`. -/
def setLead : List Char → Nat
  | '!' :: ']' :: _ => 2
  | '!' :: _ => 1
  | ']' :: _ => 1
  | _ => 0

/-- The number of characters before the bracket that closes a set. -/
def setLength (cs : List Char) : Nat :=
  setLead cs + ((cs.drop (setLead cs)).takeWhile (· != ']')).length

/-- What stands before the bracket that closes a set, and what follows it. -/
def closeSet (cs : List Char) : Option (List Char × List Char) :=
  match cs.drop (setLength cs) with
  | [] => none
  | _ :: rest => some (cs.take (setLength cs), rest)

theorem length_closeSet_lt {cs inside rest : List Char} (h : closeSet cs = some (inside, rest)) :
    rest.length < cs.length := by
  unfold closeSet at h
  split at h
  · simp at h
  · next heq =>
    have hlen := congrArg List.length heq
    simp only [Option.some.injEq, Prod.mk.injEq] at h
    simp only [List.length_drop, List.length_cons, h.2] at hlen
    omega

/-- The wildcards of a pattern. -/
def ofPattern : List Char → List Wildcard
  | [] => []
  | '*' :: cs => star :: ofPattern cs
  | '?' :: cs => any :: ofPattern cs
  | '[' :: cs =>
    match _ : closeSet cs with
    | some (inside, rest) => ofSet inside :: ofPattern rest
    | none => literal '[' :: ofPattern cs
  | c :: cs => literal c :: ofPattern cs
termination_by cs => cs.length
decreasing_by
  all_goals simp only [List.length_cons]
  all_goals first | exact Nat.lt_succ_self _ | exact Nat.lt_succ_of_lt (length_closeSet_lt ‹_›)

/-- One character that a wildcard other than a star stands for. -/
def holds (c : Char) : Wildcard → Bool
  | star => false
  | any => true
  | literal d => c == d
  | set negated items => items.any (SetItem.holds c) != negated

/-- Wildcards stand for a whole text. -/
def matchesAll : List Wildcard → List Char → Bool
  | [], cs => cs.isEmpty
  | star :: ws, [] => matchesAll ws []
  | star :: ws, c :: cs => matchesAll ws (c :: cs) || matchesAll (star :: ws) cs
  | _ :: _, [] => false
  | w :: ws, c :: cs => w.holds c && matchesAll ws cs
termination_by ws cs => ws.length + cs.length

end Wildcard

/-- A name that a text, read as a pattern, stands for. -/
def nameMatches (pattern name : String) : Bool :=
  Wildcard.matchesAll (Wildcard.ofPattern pattern.toList) name.toList

def hasWildcard (pattern : String) : Bool :=
  pattern.toList.any fun c => c == '*' || c == '?' || c == '['

end DeclGen
