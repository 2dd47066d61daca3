import DeclGen.Proofs.Text.Delimited

/-!
Names as tokens. A written name is one token on one line that denotes the name, unless the name
holds a carriage return, or is an identifier with a line feed behind it: those characters are
written as they are.
-/

namespace DeclGen.Text

/-- The positions of the quotes that no backslash before them takes with it. -/
def bareQuotes (start : Nat) : List Char → List Nat
  | '\\' :: _ :: cs => bareQuotes (start + 2) cs
  | '\x22' :: cs => start :: bareQuotes (start + 1) cs
  | _ :: cs => bareQuotes (start + 1) cs
  | [] => []

/-- A token between double quotes, with no other quote that is not escaped, that is read as a
name. -/
structure IsLiteralOf (name token : String) : Prop where
  quotes : 2 ≤ token.length ∧ bareQuotes 0 token.toList = [0, token.length - 1]
  reads : ∃ body, token.toList = '\x22' :: body ∧ unquote body = some (name.toList, [])

def IsOnOneLine (token : String) : Prop := '\n' ∉ token.toList ∧ '\r' ∉ token.toList

/-- A token on one line that denotes a name: the name itself, if it is an identifier, or a
literal. -/
def Denotes (token name : String) : Prop :=
  token = name ∧ isIdentifier name.toList = true ∨ IsLiteralOf name token ∧ IsOnOneLine token

theorem bareQuotes_cons {c : Char} (hescape : c ≠ '\\') (hquote : c ≠ '\x22') (start : Nat)
    (cs : List Char) : bareQuotes start (c :: cs) = bareQuotes (start + 1) cs := by
  rw [bareQuotes]
  · intro _ _ h _
    exact hescape h
  · exact hquote

/-- Every quote in the text of a literal is escaped. -/
theorem bareQuotes_escape (start : Nat) (cs rest : List Char) :
    bareQuotes start (escape cs ++ rest) = bareQuotes (start + (escape cs).length) rest := by
  induction cs generalizing start with
  | nil => rfl
  | cons c cs ih =>
    have hlength (n : Nat) : start + n + (escape cs).length = start + (n + (escape cs).length) := by
      omega
    rw [escape, List.flatMap_cons, ← escape, List.append_assoc, List.length_append]
    rcases escapeChar_cases c with ⟨_, hchars⟩ | ⟨_, hchars⟩ | ⟨⟨hescape, hquote, _⟩, hchars⟩
    · simp only [hchars, List.cons_append, List.nil_append, bareQuotes, ih, hlength,
        List.length_cons, List.length_nil]
    · simp only [hchars, List.cons_append, List.nil_append, bareQuotes, ih, hlength,
        List.length_cons, List.length_nil]
    · simp only [hchars, List.cons_append, List.nil_append, bareQuotes_cons hescape hquote, ih,
        hlength, List.length_cons, List.length_nil]

theorem isLiteralOf_quoted (name : String) : IsLiteralOf name (quoted name) := by
  have hlength : (quoted name).length = (escape name.toList).length + 2 := by
    rw [← String.length_toList, toList_quoted]
    simp
  refine ⟨⟨by omega, ?_⟩, _, toList_quoted name, unquote_escape name.toList []⟩
  rw [toList_quoted, bareQuotes, bareQuotes_escape, hlength]
  simp [bareQuotes, Nat.add_comm]

/-- A literal is made of the characters of its text, escapes and quotes, without line feeds. -/
theorem mem_escape {d : Char} {cs : List Char} (h : d ∈ escape cs) :
    d ≠ '\n' ∧ (d ∈ cs ∨ d = '\\' ∨ d = 'n') := by
  obtain ⟨c, hc, hd⟩ := List.mem_flatMap.mp h
  rcases escapeChar_cases c with ⟨hquoted, hchars⟩ | ⟨_, hchars⟩ | ⟨⟨_, _, hline⟩, hchars⟩
  · rw [hchars, List.mem_cons, List.mem_singleton] at hd
    rcases hd with rfl | rfl
    · exact ⟨by decide, .inr (.inl rfl)⟩
    · refine ⟨?_, .inl hc⟩
      rcases hquoted with rfl | rfl <;> decide
  · rw [hchars, List.mem_cons, List.mem_singleton] at hd
    rcases hd with rfl | rfl
    · exact ⟨by decide, .inr (.inl rfl)⟩
    · exact ⟨by decide, .inr (.inr rfl)⟩
  · rw [hchars, List.mem_singleton] at hd
    rw [hd]
    exact ⟨hline, .inl hc⟩

theorem mem_escape_of_mem {d : Char} {cs : List Char} (h : d ∈ cs) (hline : d ≠ '\n') :
    d ∈ escape cs := by
  refine List.mem_flatMap.mpr ⟨d, h, ?_⟩
  rcases escapeChar_cases d with ⟨_, hchars⟩ | ⟨hd, _⟩ | ⟨_, hchars⟩
  · simp [hchars]
  · exact absurd hd hline
  · simp [hchars]

/-- Of the characters that end a line, a literal keeps the carriage return. -/
theorem isOnOneLine_quoted (name : String) :
    IsOnOneLine (quoted name) ↔ '\r' ∉ name.toList := by
  have hmem (d : Char) (hd : d ≠ '\x22') : d ∈ (quoted name).toList ↔ d ∈ escape name.toList := by
    simp [toList_quoted, hd]
  rw [IsOnOneLine, hmem '\n' (by decide), hmem '\r' (by decide)]
  constructor
  · rintro ⟨_, hreturn⟩ hname
    exact hreturn (mem_escape_of_mem hname (by decide))
  · intro hname
    refine ⟨fun hline => (mem_escape hline).1 rfl, fun hreturn => ?_⟩
    rcases (mem_escape hreturn).2 with hmem | heq | heq
    · exact hname hmem
    · exact absurd heq (by decide)
    · exact absurd heq (by decide)

theorem not_mem_of_isIdentifier {cs : List Char} {c : Char} (h : isIdentifier cs = true)
    (hc : isIdentifierPart c = false) : c ∉ cs := by
  intro hmem
  rw [isIdentifierPart_of_isIdentifier h c hmem] at hc
  cases hc

theorem dropFinalNewline_concat (front : List Char) :
    dropFinalNewline (front ++ ['\n']) = front := by
  simp [dropFinalNewline]

theorem dropFinalNewline_of_not_mem {cs : List Char} (h : '\n' ∉ cs) :
    dropFinalNewline cs = cs := by
  rw [dropFinalNewline, if_neg]
  exact fun hlast => h (List.mem_of_getLast? hlast)

/-- A name is kept bare if it is an identifier, or one with a line feed behind it. -/
theorem isIdentifier_dropFinalNewline_iff {cs : List Char} :
    isIdentifier (dropFinalNewline cs) = true ↔ isIdentifier cs = true ∨
      ∃ front, isIdentifier front = true ∧ cs = front ++ ['\n'] := by
  constructor
  · intro h
    by_cases hlast : cs.getLast? = some '\n'
    · obtain ⟨front, rfl⟩ := List.getLast?_eq_some_iff.mp hlast
      rw [dropFinalNewline_concat] at h
      exact .inr ⟨front, h, rfl⟩
    · rw [dropFinalNewline, if_neg hlast] at h
      exact .inl h
  · rintro (h | ⟨front, hfront, rfl⟩)
    · rwa [dropFinalNewline_of_not_mem (not_mem_of_isIdentifier h (by decide))]
    · rwa [dropFinalNewline_concat]

/-- A bare name begins as an identifier does. -/
theorem isIdentifierPart_of_bare_cons {c : Char} {rest : List Char}
    (h : isIdentifier (dropFinalNewline (c :: rest)) = true) : isIdentifierPart c = true := by
  rcases isIdentifier_dropFinalNewline_iff.mp h with hwhole | ⟨front, hfront, hchars⟩
  · exact isIdentifierPart_of_isIdentifier hwhole c List.mem_cons_self
  · cases front with
    | nil => exact absurd hfront (by decide)
    | cons d front =>
      rw [(List.cons.inj hchars).1]
      exact isIdentifierPart_of_isIdentifier hfront d List.mem_cons_self

/-- Every name is written as itself or as a literal of it. The token is on one line, and bare for
identifiers only, unless the name holds a carriage return or is an identifier with a line feed
behind it. -/
theorem memberName_denotes_iff (name : String) :
    (memberName name = name ∨ IsLiteralOf name (memberName name)) ∧
      (Denotes (memberName name) name ↔ '\r' ∉ name.toList ∧
        ¬ ∃ front, isIdentifier front = true ∧ name.toList = front ++ ['\n']) := by
  by_cases hbare : isIdentifier (dropFinalNewline name.toList) = true
  · have hname : memberName name = name := if_pos hbare
    rw [hname]
    refine ⟨.inl rfl, ?_⟩
    rcases isIdentifier_dropFinalNewline_iff.mp hbare with hwhole | ⟨front, hfront, hchars⟩
    · have hnone (c : Char) (hc : isIdentifierPart c = false) : c ∉ name.toList :=
        not_mem_of_isIdentifier hwhole hc
      refine ⟨fun _ => ⟨hnone '\r' (by decide), ?_⟩, fun _ => .inl ⟨rfl, hwhole⟩⟩
      rintro ⟨front, _, hchars⟩
      exact hnone '\n' (by decide) (by simp [hchars])
    · have hline : '\n' ∈ name.toList := by simp [hchars]
      refine ⟨?_, fun h => absurd ⟨front, hfront, hchars⟩ h.2⟩
      rintro (⟨_, hwhole⟩ | ⟨_, honeLine⟩)
      · exact absurd hline (not_mem_of_isIdentifier hwhole (by decide))
      · exact absurd hline honeLine.1
  · have hname : memberName name = quoted name := if_neg hbare
    rw [isIdentifier_dropFinalNewline_iff, not_or] at hbare
    rw [hname]
    refine ⟨.inr (isLiteralOf_quoted name), ?_⟩
    rw [Denotes, isOnOneLine_quoted]
    constructor
    · rintro (⟨_, hwhole⟩ | ⟨_, hreturn⟩)
      · exact absurd hwhole hbare.1
      · exact ⟨hreturn, hbare.2⟩
    · exact fun h => .inr ⟨isLiteralOf_quoted name, h.1⟩

example : memberName "8KHZ" = "\x228KHZ\x22" := by decide

/-- A name that is kept bare for all but its line feed ends its line. -/
theorem not_denotes_memberName : ¬ ∀ name : String, Denotes (memberName name) name := by
  intro h
  rcases h "a\n" with ⟨_, hidentifier⟩ | ⟨_, honeLine⟩
  · exact absurd hidentifier (by decide)
  · exact honeLine.1 (by decide)

end DeclGen.Text
