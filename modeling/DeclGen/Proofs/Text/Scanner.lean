import DeclGen.Text.Comment
import DeclGen.Text.Identifier

/-!
A scanner of generated source. It tells code, double-quoted literals and block comments apart. Texts
that begin and end in code are closed: scanning them does not depend on what follows, so their scans
can be put together. Quoted literals and comments are closed whatever they hold.
-/

namespace DeclGen.Text

/-- What a character of the source belongs to. -/
inductive Region where
  | code
  | literal
  | comment
  deriving DecidableEq, Repr

/-- Marks every character with what it belongs to. A comment begins outside literals only, and ends
with the first `*/`; in a literal a backslash takes the next character with it. -/
def scan : Region → List Char → List (Region × Char)
  | .code, '/' :: '*' :: cs => (.comment, '/') :: (.comment, '*') :: scan .comment cs
  | .code, '\x22' :: cs => (.literal, '\x22') :: scan .literal cs
  | .code, c :: cs => (.code, c) :: scan .code cs
  | .literal, '\\' :: c :: cs => (.literal, '\\') :: (.literal, c) :: scan .literal cs
  | .literal, '\x22' :: cs => (.literal, '\x22') :: scan .code cs
  | .literal, c :: cs => (.literal, c) :: scan .literal cs
  | .comment, '*' :: '/' :: cs => (.comment, '*') :: (.comment, '/') :: scan .code cs
  | .comment, c :: cs => (.comment, c) :: scan .comment cs
  | _, [] => []

theorem scan_nil (r : Region) : scan r [] = [] := by cases r <;> rfl

theorem scan_code_cons {c : Char} (hquote : c ≠ '\x22') (hslash : c ≠ '/') (cs : List Char) :
    scan .code (c :: cs) = (.code, c) :: scan .code cs := by
  rw [scan]
  · intro _ h _
    exact hslash h
  · exact hquote

theorem scan_literal_cons {c : Char} (hquote : c ≠ '\x22') (hescape : c ≠ '\\') (cs : List Char) :
    scan .literal (c :: cs) = (.literal, c) :: scan .literal cs := by
  rw [scan]
  · intro _ _ h _
    exact hescape h
  · exact hquote

theorem scan_comment_cons {c : Char} (hstar : c ≠ '*') (cs : List Char) :
    scan .comment (c :: cs) = (.comment, c) :: scan .comment cs := by
  rw [scan]
  intro _ h _
  exact hstar h

theorem scan_comment_cons_cons {c d : Char} (h : ¬(c = '*' ∧ d = '/')) (cs : List Char) :
    scan .comment (c :: d :: cs) = (.comment, c) :: scan .comment (d :: cs) := by
  rw [scan]
  intro _ hc hcs
  exact h ⟨hc, (List.cons.inj hcs).1⟩

/-- A text that is scanned the same whatever follows it, and leaves the scanner in code. -/
def Closed (text : String) : Prop :=
  ∀ rest, scan .code (text.toList ++ rest) = scan .code text.toList ++ scan .code rest

theorem Closed.append {s t : String} (hs : Closed s) (ht : Closed t) : Closed (s ++ t) := by
  intro rest
  rw [String.toList_append, List.append_assoc, hs, ht, hs, List.append_assoc]

theorem scan_append_of_closed {s : String} (hs : Closed s) (t : String) :
    scan .code (s ++ t).toList = scan .code s.toList ++ scan .code t.toList := by
  rw [String.toList_append, hs]

/-- A text whose characters belong to one region each time is closed. -/
theorem closed_of_scan {text : String} {marked : List (Region × Char)}
    (h : ∀ rest, scan .code (text.toList ++ rest) = marked ++ scan .code rest) :
    Closed text ∧ scan .code text.toList = marked := by
  have hself : scan .code text.toList = marked := by
    have h0 := h []
    rwa [List.append_nil, scan_nil, List.append_nil] at h0
  exact ⟨fun rest => by rw [h, hself], hself⟩

/-- No double quote and no slash: neither a literal nor a comment begins in such a text. -/
def Plain (text : String) : Prop := ∀ c ∈ text.toList, c ≠ '\x22' ∧ c ≠ '/'

instance (text : String) : Decidable (Plain text) :=
  List.decidableBAll (fun c => c ≠ '\x22' ∧ c ≠ '/') text.toList

theorem Plain.append {s t : String} (hs : Plain s) (ht : Plain t) : Plain (s ++ t) := by
  intro c hc
  rw [String.toList_append] at hc
  rcases List.mem_append.mp hc with hc | hc
  · exact hs c hc
  · exact ht c hc

theorem Plain.scan_append {text : String} (h : Plain text) (rest : List Char) :
    scan .code (text.toList ++ rest) = text.toList.map (.code, ·) ++ scan .code rest := by
  unfold Plain at h
  generalize text.toList = cs at h
  induction cs with
  | nil => rfl
  | cons c cs ih =>
    obtain ⟨hc, hcs⟩ := List.forall_mem_cons.mp h
    rw [List.cons_append, scan_code_cons hc.1 hc.2, ih hcs, List.map_cons, List.cons_append]

theorem Plain.closed {text : String} (h : Plain text) : Closed text :=
  (closed_of_scan h.scan_append).1

/-- The characters of a source that are kept by where they stand and what they are. -/
def sift (keep : Region × Char → Bool) (text : String) : List Char :=
  ((scan .code text.toList).filter keep).map (·.2)

section

variable {keep : Region × Char → Bool}

theorem sift_append {s : String} (hs : Closed s) (t : String) :
    sift keep (s ++ t) = sift keep s ++ sift keep t := by
  simp only [sift, scan_append_of_closed hs, List.filter_append, List.map_append]

/-- Where a whole text belongs to one region, the characters alone decide. -/
theorem sift_of_scan {text : String} {r : Region}
    (h : ∀ rest, scan .code (text.toList ++ rest) = text.toList.map (r, ·) ++ scan .code rest) :
    sift keep text = text.toList.filter fun c => keep (r, c) := by
  rw [sift, (closed_of_scan h).2, List.filter_map, List.map_map]
  simp [Function.comp_def]

/-- Lines that are joined keep what they keep alone. -/
theorem sift_joined (hline : keep (.code, '\n') = false) {lines : List String}
    (h : ∀ line ∈ lines, Closed line) :
    sift keep ("\n".intercalate lines) = lines.flatMap (sift keep) := by
  have hbreak : Plain "\n" := by decide
  have hnone : sift keep "\n" = [] := by
    rw [sift_of_scan hbreak.scan_append]
    simp [hline]
  induction lines with
  | nil => simp [sift, scan_nil]
  | cons line lines ih =>
    obtain ⟨hfirst, hrest⟩ := List.forall_mem_cons.mp h
    cases lines with
    | nil => simp
    | cons next lines =>
      rw [String.intercalate_cons_cons, sift_append (hfirst.append hbreak.closed),
        sift_append hfirst, hnone, List.append_nil, ih hrest]
      rfl

end

/-- The first characters of a text are not changed by breaking terminators. -/
theorem breakTerminators_cons (d : Char) (cs : List Char) :
    ∃ cs', breakTerminators (d :: cs) = d :: cs' := by
  cases cs with
  | nil => exact ⟨[], rfl⟩
  | cons e cs =>
    rw [breakTerminators]
    split
    · next h => exact ⟨_, by rw [h.1]⟩
    · exact ⟨_, rfl⟩

/-- The text of a comment does not end it: the first terminator is the one behind the text. -/
theorem scan_breakTerminators (cs rest : List Char) :
    scan .comment (breakTerminators cs ++ ' ' :: '*' :: '/' :: rest) =
      (breakTerminators cs ++ [' ', '*', '/']).map (.comment, ·) ++ scan .code rest := by
  fun_induction breakTerminators cs with
  | case1 =>
    rw [List.nil_append, scan_comment_cons (by decide), scan]
    rfl
  | case2 c =>
    rw [List.cons_append, List.nil_append, scan_comment_cons_cons (by simp),
      scan_comment_cons (by decide), scan]
    rfl
  | case3 c d cs h ih =>
    simp only [List.cons_append]
    rw [scan_comment_cons_cons (by decide), scan_comment_cons (by decide),
      scan_comment_cons (by decide), ih]
    rfl
  | case4 c d cs h ih =>
    obtain ⟨tail, htail⟩ := breakTerminators_cons d cs
    rw [htail] at ih ⊢
    simp only [List.cons_append] at ih ⊢
    rw [scan_comment_cons_cons h, ih]
    rfl

theorem scan_docComment (text : String) (rest : List Char) :
    scan .code ((docComment text).toList ++ rest) =
      (docComment text).toList.map (.comment, ·) ++ scan .code rest := by
  have hsplit : (docComment text).toList =
      '/' :: '*' :: '*' :: ' ' :: (breakTerminators text.toList ++ [' ', '*', '/']) := by
    simp [docComment]
  rw [hsplit]
  simp only [List.cons_append, List.append_assoc, List.nil_append]
  rw [scan, scan_comment_cons_cons (by decide), scan_comment_cons (by decide),
    scan_breakTerminators]
  rfl

theorem closed_docComment (text : String) : Closed (docComment text) :=
  (closed_of_scan (scan_docComment text)).1

/-- How a character is written in a literal: behind a backslash, as the letter for a line feed, or
as it is. -/
theorem escapeChar_cases (c : Char) :
    (c = '\\' ∨ c = '\x22') ∧ escapeChar c = ['\\', c] ∨
      c = '\n' ∧ escapeChar c = ['\\', 'n'] ∨
        (c ≠ '\\' ∧ c ≠ '\x22' ∧ c ≠ '\n') ∧ escapeChar c = [c] := by
  by_cases hescape : c = '\\'
  · subst hescape
    exact .inl ⟨.inl rfl, rfl⟩
  by_cases hquote : c = '\x22'
  · subst hquote
    exact .inl ⟨.inr rfl, rfl⟩
  by_cases hline : c = '\n'
  · subst hline
    exact .inr (.inl ⟨rfl, rfl⟩)
  · exact .inr (.inr ⟨⟨hescape, hquote, hline⟩, by simp [escapeChar, hescape, hquote, hline]⟩)

theorem scan_escape (cs rest : List Char) :
    scan .literal (escape cs ++ '\x22' :: rest) =
      (escape cs ++ ['\x22']).map (.literal, ·) ++ scan .code rest := by
  induction cs with
  | nil => rfl
  | cons c cs ih =>
    rw [escape, List.flatMap_cons, ← escape]
    rcases escapeChar_cases c with ⟨_, hchars⟩ | ⟨_, hchars⟩ | ⟨⟨hescape, hquote, _⟩, hchars⟩
    · simp only [hchars, List.cons_append, List.nil_append, scan, ih, List.map_cons]
    · simp only [hchars, List.cons_append, List.nil_append, scan, ih, List.map_cons]
    · simp only [hchars, List.cons_append, List.nil_append, scan_literal_cons hquote hescape, ih,
        List.map_cons]

theorem scan_quoted (text : String) (rest : List Char) :
    scan .code ((quoted text).toList ++ rest) =
      (quoted text).toList.map (.literal, ·) ++ scan .code rest := by
  have hsplit : (quoted text).toList = '\x22' :: (escape text.toList ++ ['\x22']) := by
    simp [quoted]
  rw [hsplit]
  simp only [List.cons_append, List.append_assoc, List.nil_append, scan, scan_escape]
  rfl

theorem closed_quoted (text : String) : Closed (quoted text) :=
  (closed_of_scan (scan_quoted text)).1

theorem isIdentifierPart_of_isIdentifier {cs : List Char} (h : isIdentifier cs = true) :
    ∀ c ∈ cs, isIdentifierPart c = true := by
  cases cs with
  | nil => simp
  | cons c cs =>
    rw [isIdentifier, Bool.and_eq_true, List.all_eq_true] at h
    refine List.forall_mem_cons.mpr ⟨?_, h.2⟩
    have hstart := h.1
    simp only [isIdentifierStart, isIdentifierPart, Char.isAlphanum, Bool.or_eq_true] at hstart ⊢
    exact hstart.imp_left (Or.imp_left .inl)

/-- A bare name consists of parts of an identifier, up to a line feed at its end. -/
theorem isIdentifierPart_of_bare {cs : List Char}
    (h : isIdentifier (dropFinalNewline cs) = true) :
    ∀ c ∈ cs, isIdentifierPart c = true ∨ c = '\n' := by
  have hbody := isIdentifierPart_of_isIdentifier h
  unfold dropFinalNewline at hbody
  split at hbody
  · next hlast =>
    obtain ⟨front, hfront⟩ := List.getLast?_eq_some_iff.mp hlast
    rw [hfront, List.dropLast_concat] at hbody
    rw [hfront]
    exact List.forall_mem_append.mpr ⟨fun c hc => .inl (hbody c hc), by simp⟩
  · exact fun c hc => .inl (hbody c hc)

theorem plain_of_isIdentifier {text : String}
    (h : isIdentifier (dropFinalNewline text.toList) = true) : Plain text := by
  have hpart (c : Char) (hc : isIdentifierPart c = true ∨ c = '\n') : c ≠ '\x22' ∧ c ≠ '/' := by
    constructor <;> rintro rfl <;> exact absurd hc (by decide)
  exact fun c hc => hpart c (isIdentifierPart_of_bare h c hc)

/-- A name is closed as it is written: bare names are plain, and all others are quoted. -/
theorem closed_memberName (name : String) : Closed (memberName name) := by
  unfold memberName
  split
  · next h => exact (plain_of_isIdentifier h).closed
  · exact closed_quoted name

end DeclGen.Text
