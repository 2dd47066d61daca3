import DeclGen.Proofs.Declaration.Wording
import Mathlib.Logic.Function.Basic

/-!
Literals that are read back. Three replacements in a row escape a text as one pass does, and a
reader behind the opening quote gets the text back and stops at the closing quote, whatever follows.
Read after read, the variants of a union come back in order.
-/

namespace DeclGen

namespace Text

/-- A text in which every occurrence of a character is replaced. -/
def replaceAll (c : Char) (written cs : List Char) : List Char :=
  cs.flatMap fun d => if d = c then written else [d]

/-- Backslashes are replaced first, so that no later replacement touches a backslash of the text. -/
theorem escape_eq_replaceAll (cs : List Char) : escape cs =
    replaceAll '\n' ['\\', 'n']
      (replaceAll '\x22' ['\\', '\x22'] (replaceAll '\\' ['\\', '\\'] cs)) := by
  simp only [escape, replaceAll, List.flatMap_assoc]
  congr 1
  funext c
  rcases escapeChar_cases c with
    ⟨rfl | rfl, hchars⟩ | ⟨rfl, hchars⟩ | ⟨⟨hescape, hquote, hline⟩, hchars⟩
  · rw [hchars]
    rfl
  · rw [hchars]
    rfl
  · rw [hchars]
    rfl
  · simp [hchars, hescape, hquote, hline]

theorem length_of_unquote {cs text rest : List Char} (h : unquote cs = some (text, rest)) :
    rest.length < cs.length := by
  fun_induction unquote cs generalizing text with
  | case1 => cases h
  | case2 =>
    cases h
    simp
  | case3 => cases h
  | case4 =>
    cases h
    simp
  | case5 c d cs _ _ ih | case6 c d cs _ _ _ ih | case7 c d cs _ _ _ ih =>
    obtain ⟨⟨text', rest'⟩, hread, heq⟩ := Option.map_eq_some_iff.mp h
    obtain ⟨_, rfl⟩ := Prod.mk.inj heq
    have hshorter := ih hread
    simp only [List.length_cons] at hshorter ⊢
    omega

theorem length_of_readComment {cs text rest : List Char} (h : readComment cs = some (text, rest)) :
    rest.length < cs.length := by
  fun_induction readComment cs generalizing text with
  | case1 =>
    cases h
    simp only [List.length_cons]
    omega
  | case2 c cs _ ih =>
    obtain ⟨⟨text', rest'⟩, hread, heq⟩ := Option.map_eq_some_iff.mp h
    obtain ⟨_, rfl⟩ := Prod.mk.inj heq
    have hshorter := ih hread
    simp only [List.length_cons]
    omega
  | case3 => cases h

/-- What follows the comments at the beginning of a text, each of which stands behind a space. -/
def skipComments : List Char → List Char
  | ' ' :: '/' :: '*' :: cs =>
    match _hread : readComment cs with
    | some (_, rest) => skipComments rest
    | none => ' ' :: '/' :: '*' :: cs
  | cs => cs
termination_by cs => cs.length
decreasing_by
  have := length_of_readComment _hread
  simp only [List.length_cons]
  omega

theorem length_skipComments_le (cs : List Char) : (skipComments cs).length ≤ cs.length := by
  fun_induction skipComments cs with
  | case1 cs text rest h ih =>
    have hshorter := length_of_readComment h
    simp only [List.length_cons]
    omega
  | case2 => exact Nat.le_refl _
  | case3 => exact Nat.le_refl _

/-- Reads literals with bars between them. Comments behind a literal are passed over. -/
def readVariants : List Char → Option (List String × List Char)
  | '\x22' :: cs =>
    match _hread : unquote cs with
    | some (text, left) =>
      match _hleft : skipComments left with
      | ' ' :: '|' :: ' ' :: more =>
        (readVariants more).map fun read => (String.ofList text :: read.1, read.2)
      | rest => some ([String.ofList text], rest)
    | none => none
  | _ => none
termination_by cs => cs.length
decreasing_by
  have := length_of_unquote _hread
  have := length_skipComments_le left
  simp only [_hleft, List.length_cons] at *
  omega

/-- Reads a union of literals, and what follows it. -/
def readUnion (cs : List Char) : Option (List String × List Char) :=
  match cs with
  | 'n' :: 'e' :: 'v' :: 'e' :: 'r' :: rest => some ([], rest)
  | cs => readVariants cs

theorem skipComments_of_ends {rest : List Char} (h : EndsComments rest) :
    skipComments rest = rest := by
  rw [skipComments]
  intro cs heq
  exact h _ heq

theorem readComment_docComment (text rest : List Char) :
    readComment ('*' :: ' ' :: (breakTerminators text ++ ' ' :: '*' :: '/' :: rest)) =
      some ('*' :: ' ' :: (breakTerminators text ++ [' ']), rest) := by
  rw [readComment_cons_cons (by decide), readComment_cons (by decide), readComment_breakTerminators]
  rfl

theorem skipComments_commentTail (comments : List String) {rest : List Char}
    (h : EndsComments rest) : skipComments (commentTail comments ++ rest) = rest := by
  induction comments with
  | nil => exact skipComments_of_ends h
  | cons comment comments ih =>
    rw [commentTail_cons_append, toList_docComment]
    simp only [List.cons_append, List.append_assoc, List.nil_append]
    rw [skipComments, readComment_docComment]
    exact ih

section

variable (text : String) (comments : List String) {rest : List Char}

/-- Behind a variant the reader goes on if a bar follows. -/
theorem readVariants_bar (more : List Char) :
    readVariants ((quoted text).toList ++ (commentTail comments ++ ' ' :: '|' :: ' ' :: more)) =
      (readVariants more).map fun read => (text :: read.1, read.2) := by
  have hends : EndsComments (' ' :: '|' :: ' ' :: more) := by
    intro _ heq
    cases heq
  rw [toList_quoted]
  simp only [List.cons_append, List.append_assoc, List.nil_append]
  rw [readVariants, unquote_escape]
  simp only
  rw [skipComments_commentTail comments hends]
  simp only [String.ofList_toList]

/-- Behind a variant the reader stops if no space follows. -/
theorem readVariants_last (h : rest.head? ≠ some ' ') :
    readVariants ((quoted text).toList ++ (commentTail comments ++ rest)) =
      some ([text], rest) := by
  have hends : EndsComments rest := by
    rintro more rfl
    exact h rfl
  rw [toList_quoted]
  simp only [List.cons_append, List.append_assoc, List.nil_append]
  rw [readVariants, unquote_escape]
  simp only
  rw [skipComments_commentTail comments hends, String.ofList_toList]
  split
  · simp at h
  · rfl

end

theorem readVariants_chars (v : LiteralVariant) (vs : List LiteralVariant) {rest : List Char}
    (h : rest.head? ≠ some ' ') :
    readVariants ((quoted v.value).toList ++
      (commentTail v.trailingComments ++ (vs.flatMap LiteralVariant.chars ++ rest))) =
      some ((v :: vs).map (·.value), rest) := by
  induction vs generalizing v with
  | nil => exact readVariants_last v.value v.trailingComments h
  | cons w vs ih =>
    rw [List.flatMap_cons, LiteralVariant.chars]
    simp only [List.cons_append, List.append_assoc]
    rw [readVariants_bar, ih w]
    rfl

/-- The variants of a union are read back in order, with or without comments behind them. -/
theorem readUnion_joinUnion (vs : List LiteralVariant) {rest : List Char}
    (h : rest.head? ≠ some ' ') :
    readUnion ((joinUnion (vs.map fun v =>
      withTrailingComments v.text v.trailingComments)).toList ++ rest) =
        some (vs.map (·.value), rest) := by
  cases vs with
  | nil => rfl
  | cons v vs =>
    have hchars := toList_joinUnion v vs
    rw [List.flatMap_cons, LiteralVariant.chars] at hchars
    simp only [List.cons_append, List.append_assoc, List.cons.injEq, true_and] at hchars
    rw [hchars, List.append_assoc, List.append_assoc, ← readVariants_chars v vs h, toList_quoted]
    rfl

end Text

open Text

theorem LiteralUnion.toList_text_append (u : LiteralUnion) (rest : List Char) :
    u.text.toList ++ rest = ("export type " ++ u.name ++ " = ").toList ++
      ((joinUnion (u.variants.map fun v =>
        withTrailingComments v.text v.trailingComments)).toList ++ ';' :: rest) := by
  change ("export type " ++ u.name ++ " = " ++ joinUnion _ ++ ";").toList ++ rest = _
  rw [String.toList_append, String.toList_append, List.append_assoc, List.append_assoc]
  rfl

/-- A literal is its text behind three replacements and between quotes. Whatever follows it, a
reader behind its opening quote gets the text and stops behind the closing quote, so no two texts
have the same literal. The variants of a union are read back in order, from the type alone and from
the line that declares it. -/
theorem literals_read_back :
    (∀ text, (quoted text).toList = '\x22' :: (replaceAll '\n' ['\\', 'n']
      (replaceAll '\x22' ['\\', '\x22'] (replaceAll '\\' ['\\', '\\'] text.toList)) ++ ['\x22'])) ∧
    (∀ text rest, unquote ((quoted text).toList ++ rest).tail = some (text.toList, rest)) ∧
    Function.Injective quoted ∧
    (∀ values, readUnion (joinUnion (values.map quoted)).toList = some (values, [])) ∧
    ∀ (u : LiteralUnion) rest,
      readUnion ((u.text.toList ++ rest).drop ("export type " ++ u.name ++ " = ").length) =
        some (u.variants.map (·.value), ';' :: rest) := by
  refine ⟨?_, ?_, ?_, ?_, ?_⟩
  · intro text
    rw [toList_quoted, escape_eq_replaceAll]
  · intro text rest
    rw [toList_quoted, List.cons_append, List.tail_cons, List.append_assoc]
    exact unquote_escape text.toList rest
  · intro s t h
    have hsame : (quoted s).toList ++ [] = (quoted t).toList ++ [] := by rw [h]
    exact (quoted_append_injective hsame).1
  · intro values
    have hend : ([] : List Char).head? ≠ some ' ' := by simp
    have hplain := readUnion_joinUnion (values.map fun value => ⟨value, []⟩) hend
    simpa [Function.comp_def, LiteralVariant.text, withTrailingComments] using hplain
  · intro u rest
    have hend : (';' :: rest).head? ≠ some ' ' := by simp
    rw [LiteralUnion.toList_text_append, ← String.length_toList, List.drop_left]
    exact readUnion_joinUnion u.variants hend

end DeclGen
