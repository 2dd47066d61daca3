import DeclGen.Proofs.Text.Scanner
import DeclGen.Text.IntegerLiteral
import Mathlib.Data.List.TakeWhile

/-!
Texts that show where they end. Whatever follows a quoted literal, a comment or the name of a
member, what is written can be told from it, and so can the text behind it. An integer literal ends
before the first comma or slash.
-/

namespace DeclGen.Text

section

variable {α : Type} {p : α → Bool} {xs ys rest rest' : List α}

theorem takeWhile_append_of_run (hxs : ∀ x ∈ xs, p x = true)
    (hrest : ∀ x ∈ rest.head?, p x = false) : (xs ++ rest).takeWhile p = xs := by
  have hnone : rest.takeWhile p = [] := by
    cases rest with
    | nil => rfl
    | cons x rest => simp [hrest x rfl]
  rw [List.takeWhile_append_of_pos hxs, hnone, List.append_nil]

/-- A run ends before the first item that is not of its kind. -/
theorem append_injective_of_run (hxs : ∀ x ∈ xs, p x = true) (hys : ∀ y ∈ ys, p y = true)
    (hrest : ∀ x ∈ rest.head?, p x = false) (hrest' : ∀ x ∈ rest'.head?, p x = false)
    (h : xs ++ rest = ys ++ rest') : xs = ys ∧ rest = rest' := by
  have hrun : xs = ys := by
    rw [← takeWhile_append_of_run hxs hrest, h, takeWhile_append_of_run hys hrest']
  subst hrun
  exact ⟨rfl, List.append_cancel_left h⟩

end

section

variable {α β γ : Type} {write : α → List β} (Ends : List β → Prop)

theorem ends_flatMap_append {rest : List β} (hends : ∀ x r, Ends r → Ends (write x ++ r))
    (hrest : Ends rest) (xs : List α) : Ends (xs.flatMap write ++ rest) := by
  induction xs with
  | nil => exact hrest
  | cons x xs ih =>
    rw [List.flatMap_cons, List.append_assoc]
    exact hends x _ ih

/-- Items that are written one after another can be told if the first one can be told from all that
goes on as such a text does, and if what follows the last one does not go on as an item. -/
theorem flatMap_append_injective {told : α → γ} {xs ys : List α} {rest rest' : List β}
    (hitem : ∀ x ∈ xs, ∀ y ∈ ys, ∀ r r', Ends r → Ends r' → write x ++ r = write y ++ r' →
      told x = told y ∧ r = r')
    (hends : ∀ x r, Ends r → Ends (write x ++ r)) (hrest : Ends rest) (hrest' : Ends rest')
    (hlast : ∀ x r, write x ++ r ≠ rest) (hlast' : ∀ x r, write x ++ r ≠ rest')
    (h : xs.flatMap write ++ rest = ys.flatMap write ++ rest') :
    xs.map told = ys.map told ∧ rest = rest' := by
  induction xs generalizing ys with
  | nil =>
    cases ys with
    | nil => exact ⟨rfl, h⟩
    | cons y ys =>
      rw [List.flatMap_cons, List.append_assoc] at h
      exact absurd h.symm (hlast y _)
  | cons x xs ih =>
    cases ys with
    | nil =>
      rw [List.flatMap_cons, List.append_assoc] at h
      exact absurd h (hlast' x _)
    | cons y ys =>
      simp only [List.flatMap_cons, List.append_assoc] at h
      obtain ⟨htold, htail⟩ := hitem x List.mem_cons_self y List.mem_cons_self _ _
        (ends_flatMap_append Ends hends hrest xs) (ends_flatMap_append Ends hends hrest' ys) h
      have hrestItem : ∀ x ∈ xs, ∀ y ∈ ys, ∀ r r', Ends r → Ends r' →
          write x ++ r = write y ++ r' → told x = told y ∧ r = r' := fun x hx y hy =>
        hitem x (List.mem_cons_of_mem _ hx) y (List.mem_cons_of_mem _ hy)
      obtain ⟨htolds, hend⟩ := ih hrestItem htail
      exact ⟨by rw [List.map_cons, List.map_cons, htold, htolds], hend⟩

end

theorem unquote_quote (rest : List Char) : unquote ('\x22' :: rest) = some ([], rest) := by
  cases rest <;> rfl

theorem unquote_cons {c : Char} (hquote : c ≠ '\x22') (hescape : c ≠ '\\') (cs : List Char) :
    unquote (c :: cs) = (unquote cs).map fun (text, left) => (c :: text, left) := by
  cases cs with
  | nil => simp [unquote, hquote]
  | cons d cs => simp [unquote, hquote, hescape]

/-- Reading a literal undoes its escapes, and leaves what follows it. -/
theorem unquote_escape (cs rest : List Char) :
    unquote (escape cs ++ '\x22' :: rest) = some (cs, rest) := by
  induction cs with
  | nil => exact unquote_quote rest
  | cons c cs ih =>
    rw [escape, List.flatMap_cons, ← escape, List.append_assoc]
    rcases escapeChar_cases c with ⟨hc, hchars⟩ | ⟨hc, hchars⟩ | ⟨⟨hescape, hquote, _⟩, hchars⟩
    · rw [hchars]
      simp [unquote, hc, ih]
    · rw [hchars]
      simp [unquote, hc, ih]
    · rw [hchars, List.singleton_append, unquote_cons hquote hescape, ih]
      rfl

theorem toList_quoted (text : String) :
    (quoted text).toList = '\x22' :: (escape text.toList ++ ['\x22']) := by
  simp [quoted]

theorem quoted_append_injective {s t : String} {rest rest' : List Char}
    (h : (quoted s).toList ++ rest = (quoted t).toList ++ rest') : s = t ∧ rest = rest' := by
  rw [toList_quoted, toList_quoted] at h
  simp only [List.cons_append, List.append_assoc, List.nil_append] at h
  have hread := congrArg unquote (List.cons.inj h).2
  rw [unquote_escape, unquote_escape] at hread
  obtain ⟨htext, hrest⟩ := Prod.mk.inj (Option.some.inj hread)
  exact ⟨String.toList_injective htext, hrest⟩

/-- Reads a comment up to its terminator, and what follows that. -/
def readComment : List Char → Option (List Char × List Char)
  | '*' :: '/' :: rest => some ([], rest)
  | c :: rest => (readComment rest).map fun (text, left) => (c :: text, left)
  | [] => none

theorem readComment_cons_cons {c d : Char} (h : ¬(c = '*' ∧ d = '/')) (cs : List Char) :
    readComment (c :: d :: cs) =
      (readComment (d :: cs)).map fun (text, left) => (c :: text, left) := by
  rw [readComment]
  intro _ hc hcs
  exact h ⟨hc, (List.cons.inj hcs).1⟩

theorem readComment_cons {c : Char} (hstar : c ≠ '*') (cs : List Char) :
    readComment (c :: cs) = (readComment cs).map fun (text, left) => (c :: text, left) := by
  rw [readComment]
  intro _ h _
  exact hstar h

/-- A comment is read up to the terminator behind its text, and no other. -/
theorem readComment_breakTerminators (cs rest : List Char) :
    readComment (breakTerminators cs ++ ' ' :: '*' :: '/' :: rest) =
      some (breakTerminators cs ++ [' '], rest) := by
  fun_induction breakTerminators cs with
  | case1 => rfl
  | case2 c =>
    rw [List.singleton_append, readComment_cons_cons (by simp)]
    rfl
  | case3 c d cs h ih =>
    simp only [List.cons_append]
    rw [readComment_cons_cons (by decide), readComment_cons (by decide),
      readComment_cons (by decide), ih]
    rfl
  | case4 c d cs h ih =>
    obtain ⟨tail, htail⟩ := breakTerminators_cons d cs
    rw [htail] at ih ⊢
    simp only [List.cons_append] at ih ⊢
    rw [readComment_cons_cons h, ih]
    rfl

/-- A text whose terminators are broken has none left to break. -/
theorem breakTerminators_breakTerminators (cs : List Char) :
    breakTerminators (breakTerminators cs) = breakTerminators cs := by
  have hcons {c d : Char} (h : ¬(c = '*' ∧ d = '/')) (cs : List Char) :
      breakTerminators (c :: d :: cs) = c :: breakTerminators (d :: cs) := by
    rw [breakTerminators, if_neg h]
  have hslash (cs : List Char) : breakTerminators ('/' :: cs) = '/' :: breakTerminators cs := by
    cases cs with
    | nil => rfl
    | cons c cs => exact hcons (by simp) cs
  fun_induction breakTerminators cs with
  | case1 => rfl
  | case2 c => rfl
  | case3 c d cs h ih => rw [hcons (by decide), hcons (by decide), hslash, ih]
  | case4 c d cs h ih =>
    obtain ⟨tail, htail⟩ := breakTerminators_cons d cs
    rw [htail] at ih ⊢
    rw [hcons h, ih]

theorem toList_docComment (text : String) : (docComment text).toList =
    '/' :: '*' :: '*' :: ' ' :: (breakTerminators text.toList ++ [' ', '*', '/']) := by
  simp [docComment]

/-- A comment shows its text up to the way in which terminators are written. -/
theorem docComment_append_injective {s t : String} {rest rest' : List Char}
    (h : (docComment s).toList ++ rest = (docComment t).toList ++ rest') :
    breakTerminators s.toList = breakTerminators t.toList ∧ rest = rest' := by
  rw [toList_docComment, toList_docComment] at h
  simp only [List.cons_append, List.append_assoc, List.nil_append, List.cons.injEq, true_and] at h
  have hread := congrArg readComment h
  rw [readComment_breakTerminators, readComment_breakTerminators] at hread
  obtain ⟨htext, hrest⟩ := Prod.mk.inj (Option.some.inj hread)
  exact ⟨List.append_cancel_right htext, hrest⟩

/-- A text that goes on behind a name: its first character is not a part of one. -/
def EndsName (rest : List Char) : Prop :=
  ∀ c ∈ rest.head?, isIdentifierPart c = false ∧ c ≠ '\n'

/-- A bare name does not begin like a quoted one. -/
theorem bare_ne_quoted {cs rest rest' : List Char} {t : String}
    (h : isIdentifier (dropFinalNewline cs) = true) : cs ++ rest ≠ (quoted t).toList ++ rest' := by
  intro heq
  rw [toList_quoted] at heq
  cases cs with
  | nil => exact absurd h (by decide)
  | cons c cs =>
    have hc := isIdentifierPart_of_bare h c List.mem_cons_self
    rw [(List.cons.inj heq).1] at hc
    exact absurd hc (by decide)

theorem memberName_append_injective {s t : String} {rest rest' : List Char} (hrest : EndsName rest)
    (hrest' : EndsName rest') (h : (memberName s).toList ++ rest = (memberName t).toList ++ rest') :
    s = t ∧ rest = rest' := by
  unfold memberName at h
  by_cases hs : isIdentifier (dropFinalNewline s.toList) = true
  · by_cases ht : isIdentifier (dropFinalNewline t.toList) = true
    · rw [if_pos hs, if_pos ht] at h
      obtain ⟨hname, hend⟩ := append_injective_of_run
        (p := fun c => isIdentifierPart c || c == '\n')
        (by simpa using isIdentifierPart_of_bare hs) (by simpa using isIdentifierPart_of_bare ht)
        (by simpa [EndsName] using hrest) (by simpa [EndsName] using hrest') h
      exact ⟨String.toList_injective hname, hend⟩
    · rw [if_pos hs, if_neg ht] at h
      exact absurd h (bare_ne_quoted hs)
  · by_cases ht : isIdentifier (dropFinalNewline t.toList) = true
    · rw [if_neg hs, if_pos ht] at h
      exact absurd h.symm (bare_ne_quoted ht)
    · rw [if_neg hs, if_neg ht] at h
      exact quoted_append_injective h

/-- A character that can stand in an integer literal. -/
def isLiteralChar (c : Char) : Bool :=
  isBlank c || c == '-' || c == '+' || c == '_' || (markRadix? c).isSome || (digitValue? c).isSome

theorem isLiteralChar_of_radixDigit {radix : Nat} {c : Char} (h : (radixDigit? radix c).isSome) :
    isLiteralChar c = true := by
  have hdigit : (digitValue? c).isSome := by
    rw [radixDigit?] at h
    cases hvalue : digitValue? c with
    | none => simp [hvalue] at h
    | some value => rfl
  simp [isLiteralChar, hdigit]

theorem isLiteralChar_of_isZeroDigit {c : Char} (h : isZeroDigit c = true) :
    isLiteralChar c = true := by
  have hdigit : digitValue? c = some 0 := by
    rw [digitValue?, beq_iff_eq.mp h]
  simp [isLiteralChar, hdigit]

/-- Everything that is read as digits, and then everything, is made of characters of a literal. -/
theorem isLiteralChar_of_digitRun {radix : Nat} {cs rest : List Char} {values : List Nat}
    (h : digitRun radix cs = some (values, rest)) (hrest : ∀ c ∈ rest, isLiteralChar c = true) :
    ∀ c ∈ cs, isLiteralChar c = true := by
  fun_induction digitRun radix cs generalizing values with
  | case1 => simp
  | case2 => cases h
  | case3 c cs hdigit hscore =>
    obtain ⟨_, rfl⟩ := Prod.mk.inj (Option.some.inj h)
    exact hrest
  | case4 c value hdigit d more _ ih =>
    obtain ⟨⟨values', rest'⟩, hrun, heq⟩ := Option.map_eq_some_iff.mp h
    obtain ⟨_, rfl⟩ := Prod.mk.inj heq
    have hc := isLiteralChar_of_radixDigit (Option.isSome_of_eq_some hdigit)
    exact List.forall_mem_cons.mpr ⟨hc, List.forall_mem_cons.mpr ⟨by decide, ih hrun⟩⟩
  | case5 => cases h
  | case6 => cases h
  | case7 c value hdigit more _ _ ih =>
    obtain ⟨⟨values', rest'⟩, hrun, heq⟩ := Option.map_eq_some_iff.mp h
    obtain ⟨_, rfl⟩ := Prod.mk.inj heq
    have hc := isLiteralChar_of_radixDigit (Option.isSome_of_eq_some hdigit)
    exact List.forall_mem_cons.mpr ⟨hc, ih hrun⟩

theorem isLiteralChar_of_splitMark {cs : List Char}
    (h : ∀ c ∈ (splitMark cs).2, isLiteralChar c = true) : ∀ c ∈ cs, isLiteralChar c = true := by
  unfold splitMark at h
  split at h
  · next first mark rest =>
    split at h
    · next radix hmark =>
      split at h
      · next hzero =>
        have hfirst := isLiteralChar_of_isZeroDigit hzero
        have hradix : isLiteralChar mark = true := by simp [isLiteralChar, hmark]
        refine List.forall_mem_cons.mpr ⟨hfirst, List.forall_mem_cons.mpr ⟨hradix, ?_⟩⟩
        cases rest with
        | nil => simp
        | cons c rest =>
          by_cases hscore : c = '_'
          · subst hscore
            exact List.forall_mem_cons.mpr ⟨by decide, h⟩
          · simpa [hscore] using h
      · exact h
    · exact h
  · exact h

theorem isLiteralChar_of_splitSign {cs : List Char}
    (h : ∀ c ∈ (splitSign cs).2, isLiteralChar c = true) : ∀ c ∈ cs, isLiteralChar c = true := by
  unfold splitSign at h
  split at h
  · exact List.forall_mem_cons.mpr ⟨by decide, h⟩
  · exact List.forall_mem_cons.mpr ⟨by decide, h⟩
  · exact h

theorem digitRun_of_readInteger {text : String} {n : Int} (h : readInteger text = .ok n) :
    ∃ values rest,
      digitRun (splitMark (splitSign (text.toList.dropWhile isBlank)).2).1
        (splitMark (splitSign (text.toList.dropWhile isBlank)).2).2 = some (values, rest) ∧
      rest.all isBlank = true := by
  unfold readInteger at h
  simp only at h
  split at h
  · cases h
  · next values rest hrun =>
    refine ⟨values, rest, hrun, ?_⟩
    split at h
    · cases h
    split at h
    · cases h
    split at h
    · cases h
    split at h
    · next hblank => exact hblank
    · cases h

/-- A text that is accepted as an integer literal consists of characters of literals. -/
theorem isLiteralChar_of_readInteger {text : String} {n : Int} (h : readInteger text = .ok n) :
    ∀ c ∈ text.toList, isLiteralChar c = true := by
  have hblank (c : Char) (hc : isBlank c = true) : isLiteralChar c = true := by
    simp [isLiteralChar, hc]
  obtain ⟨values, rest, hrun, hrest⟩ := digitRun_of_readInteger h
  have hbody := isLiteralChar_of_digitRun hrun fun c hc => hblank c (List.all_eq_true.mp hrest c hc)
  have hdropped := isLiteralChar_of_splitSign (isLiteralChar_of_splitMark hbody)
  rw [← List.takeWhile_append_dropWhile (p := isBlank) (l := text.toList)]
  refine List.forall_mem_append.mpr ⟨fun c hc => hblank c ?_, hdropped⟩
  exact List.mem_takeWhile_imp hc

/-- An integer literal holds neither a comma nor a slash. -/
theorem ne_of_isLiteralChar {c : Char} (h : isLiteralChar c = true) : c ≠ ',' ∧ c ≠ '/' := by
  constructor <;> rintro rfl <;> exact absurd h (by decide)

end DeclGen.Text
