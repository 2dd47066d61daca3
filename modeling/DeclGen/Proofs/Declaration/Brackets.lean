import DeclGen.Proofs.Declaration.Code
import DeclGen.Proofs.Declaration.Layout
import DeclGen.Proofs.Declaration.Wording
import DeclGen.Proofs.Text.NameToken

/-!
Braces and indentation. In the code of generated source every brace is closed, and a line stands
behind four spaces for every brace that is open before it. Braces in comments, and in names and
variants that are written as literals, do not count.
-/

namespace DeclGen

open Text

def isBrace (c : Char) : Bool := c == '\x7b' || c == '\x7d'

/-- The braces of a source that belong to its code. -/
def codeBraces (text : String) : List Char :=
  sift (fun (region, c) => region = .code && isBrace c) text

/-- The number of opening braces less that of closing ones. -/
def balance (braces : List Char) : Int := braces.count '\x7b' - braces.count '\x7d'

theorem balance_append (bs cs : List Char) : balance (bs ++ cs) = balance bs + balance cs := by
  simp only [balance, List.count_append]
  omega

/-- A text without braces, double quotes and slashes. -/
def Braceless (text : String) : Prop := Plain text ∧ ∀ c ∈ text.toList, isBrace c = false

instance (text : String) : Decidable (Braceless text) :=
  @instDecidableAnd _ _ _ (List.decidableBAll (fun c => isBrace c = false) text.toList)

theorem codeBraces_append {s : String} (hs : Closed s) (t : String) :
    codeBraces (s ++ t) = codeBraces s ++ codeBraces t := sift_append hs t

theorem codeBraces_joined {lines : List String} (h : ∀ line ∈ lines, Closed line) :
    codeBraces ("\n".intercalate lines) = lines.flatMap codeBraces :=
  sift_joined (by decide) h

/-- A closed text whose code holds no braces. -/
structure Neutral (text : String) : Prop where
  closed : Closed text
  braces : codeBraces text = []

theorem Braceless.neutral {text : String} (h : Braceless text) : Neutral text := by
  refine ⟨h.1.closed, ?_⟩
  rw [codeBraces, sift_of_scan h.1.scan_append]
  simpa using h.2

theorem Neutral.append {s t : String} (hs : Neutral s) (ht : Neutral t) : Neutral (s ++ t) :=
  ⟨hs.closed.append ht.closed, by rw [codeBraces_append hs.closed, hs.braces, ht.braces]; rfl⟩

theorem neutral_docComment (text : String) : Neutral (docComment text) := by
  refine ⟨closed_docComment text, ?_⟩
  rw [codeBraces, sift_of_scan (scan_docComment text)]
  simp

theorem neutral_quoted (text : String) : Neutral (quoted text) := by
  refine ⟨closed_quoted text, ?_⟩
  rw [codeBraces, sift_of_scan (scan_quoted text)]
  simp

/-- A name holds no braces in its code: a bare one has none, any other is a literal. -/
theorem neutral_memberName (name : String) : Neutral (memberName name) := by
  unfold memberName
  split
  · next h =>
    refine Braceless.neutral ⟨plain_of_isIdentifier h, fun c hc => ?_⟩
    rcases isIdentifierPart_of_bare h c hc with hpart | rfl
    · rw [Bool.eq_false_iff]
      intro hbrace
      rcases Bool.or_eq_true _ _ ▸ hbrace with heq | heq <;>
        exact absurd (beq_iff_eq.mp heq ▸ hpart) (by decide)
    · decide
  · exact neutral_quoted name

theorem Neutral.intercalate {sep : String} (hsep : Neutral sep) {texts : List String}
    (h : ∀ text ∈ texts, Neutral text) : Neutral (sep.intercalate texts) := by
  induction texts with
  | nil => exact Braceless.neutral (by decide : Braceless "")
  | cons text texts ih =>
    obtain ⟨htext, htexts⟩ := List.forall_mem_cons.mp h
    cases texts with
    | nil => simpa using htext
    | cons next texts =>
      rw [String.intercalate_cons_cons]
      exact (htext.append hsep).append (ih htexts)

theorem neutral_withTrailingComments {text : String} (h : Neutral text) (comments : List String) :
    Neutral (withTrailingComments text comments) := by
  refine Neutral.intercalate (Braceless.neutral (by decide)) (List.forall_mem_cons.mpr ⟨h, ?_⟩)
  rintro _ hcomment
  obtain ⟨comment, _, rfl⟩ := List.mem_map.mp hcomment
  exact neutral_docComment comment

/-- A line behind four spaces for every open brace, not counting the one that the line closes. -/
def IndentedTo (depth : Int) (line : String) : Prop :=
  ∃ n c rest, line.toList = List.replicate (4 * n) ' ' ++ c :: rest ∧ c.isWhitespace = false ∧
    depth = n + if c = '\x7d' then 1 else 0

/-- A line that is indented to the number of braces open before it, and closes no more than
those. -/
structure AlignedLine (depth : Int) (line : String) : Prop where
  closed : Closed line
  open_nonneg : ∀ bs, bs <+: codeBraces line → 0 ≤ depth + balance bs
  indentation : IndentedTo depth line

theorem codeBraces_indented (n : Nat) (line : String) :
    codeBraces (indented n line) = codeBraces line := by
  have hblank : ∀ c ∈ (String.ofList (List.replicate (4 * n) ' ')).toList, isBrace c = false := by
    intro c hc
    rw [String.toList_ofList] at hc
    rw [List.eq_of_mem_replicate hc]
    decide
  have hneutral : Neutral (String.ofList (List.replicate (4 * n) ' ')) :=
    Braceless.neutral ⟨plain_indentation n, hblank⟩
  rw [indented, codeBraces_append hneutral.closed, hneutral.braces, List.nil_append]

theorem IndentedTo.deeper {depth : Int} {line : String} (h : IndentedTo depth line) :
    IndentedTo (depth + 1) (indented 1 line) := by
  obtain ⟨n, c, rest, hline, hc, rfl⟩ := h
  refine ⟨n + 1, c, rest, ?_, hc, by omega⟩
  have hlength : 4 * (n + 1) = 4 * 1 + 4 * n := by omega
  rw [indented, String.toList_append, String.toList_ofList, hline, hlength,
    ← List.replicate_append_replicate, List.append_assoc]

theorem AlignedLine.deeper {depth : Int} {line : String} (h : AlignedLine depth line) :
    AlignedLine (depth + 1) (indented 1 line) := by
  refine ⟨closed_indented 1 h.closed, fun bs hbs => ?_, h.indentation.deeper⟩
  rw [codeBraces_indented] at hbs
  have hbalance := h.open_nonneg bs hbs
  omega

/-- Lines that are aligned one after another, where each changes the number of open braces for the
lines behind it. -/
def Aligned : Int → List String → Prop
  | _, [] => True
  | depth, line :: lines =>
    AlignedLine depth line ∧ Aligned (depth + balance (codeBraces line)) lines

theorem aligned_append {depth : Int} {xs ys : List String} : Aligned depth (xs ++ ys) ↔
    Aligned depth xs ∧ Aligned (depth + balance (xs.flatMap codeBraces)) ys := by
  induction xs generalizing depth with
  | nil =>
    have hnil : depth + balance ([].flatMap codeBraces) = depth := Int.add_zero depth
    rw [List.nil_append, hnil]
    simp [Aligned]
  | cons x xs ih =>
    rw [List.cons_append, Aligned, Aligned, ih, List.flatMap_cons, balance_append, Int.add_assoc,
      and_assoc]

theorem Aligned.deeper {depth : Int} {lines : List String} (h : Aligned depth lines) :
    Aligned (depth + 1) (deeper lines) := by
  induction lines generalizing depth with
  | nil => trivial
  | cons line lines ih =>
    refine ⟨h.1.deeper, ?_⟩
    have hdepth : depth + 1 + balance (codeBraces (indented 1 line)) =
        depth + balance (codeBraces line) + 1 := by
      rw [codeBraces_indented]
      omega
    rw [hdepth]
    exact ih h.2

theorem Aligned.closed {depth : Int} {lines : List String} (h : Aligned depth lines) :
    ∀ line ∈ lines, Closed line := by
  induction lines generalizing depth with
  | nil => simp
  | cons line lines ih => exact List.forall_mem_cons.mpr ⟨h.1.closed, ih h.2⟩

theorem prefix_append_cases {α : Type} {xs ys zs : List α} (h : xs <+: ys ++ zs) :
    xs <+: ys ∨ ∃ rest, xs = ys ++ rest ∧ rest <+: zs := by
  obtain ⟨more, hmore⟩ := h
  rcases List.append_eq_append_iff.mp hmore with ⟨rest, hys, _⟩ | ⟨rest, hxs, hzs⟩
  · exact .inl ⟨rest, hys.symm⟩
  · exact .inr ⟨rest, hxs, more, hzs.symm⟩

/-- Nowhere in aligned lines are more braces closed than are open. -/
theorem Aligned.open_nonneg {depth : Int} {lines : List String} (h : Aligned depth lines)
    (hdepth : 0 ≤ depth) : ∀ bs, bs <+: lines.flatMap codeBraces → 0 ≤ depth + balance bs := by
  induction lines generalizing depth with
  | nil =>
    intro bs hbs
    rw [List.prefix_nil.mp hbs]
    exact (Int.add_zero depth).symm ▸ hdepth
  | cons line lines ih =>
    intro bs hbs
    rw [List.flatMap_cons] at hbs
    rcases prefix_append_cases hbs with hfirst | ⟨rest, rfl, hrest⟩
    · exact h.1.open_nonneg bs hfirst
    · have hbehind := ih h.2 (h.1.open_nonneg _ List.prefix_rfl) rest hrest
      rw [balance_append]
      omega

theorem deeper_balance (lines : List String) :
    (deeper lines).flatMap codeBraces = lines.flatMap codeBraces := by
  rw [deeper, List.flatMap_map, funext (codeBraces_indented 1)]

/-- Aligned lines that close every brace they open. -/
structure Balanced (lines : List String) : Prop where
  aligned : Aligned 0 lines
  balance_eq : balance (lines.flatMap codeBraces) = 0

namespace Balanced

theorem nil : Balanced [] := ⟨trivial, rfl⟩

theorem append {xs ys : List String} (hx : Balanced xs) (hy : Balanced ys) :
    Balanced (xs ++ ys) := by
  constructor
  · rw [aligned_append, hx.balance_eq]
    exact ⟨hx.aligned, hy.aligned⟩
  · rw [List.flatMap_append, balance_append, hx.balance_eq, hy.balance_eq]
    rfl

theorem flatMap {α : Type} {xs : List α} {f : α → List String} (h : ∀ x ∈ xs, Balanced (f x)) :
    Balanced (xs.flatMap f) := by
  induction xs with
  | nil => exact nil
  | cons x xs ih =>
    obtain ⟨hx, hxs⟩ := List.forall_mem_cons.mp h
    rw [List.flatMap_cons]
    exact hx.append (ih hxs)

end Balanced

/-- A text that begins with a character that is neither blank nor a closing brace. -/
def BeginsVisibly (text : String) : Prop :=
  ∃ c rest, text.toList = c :: rest ∧ c.isWhitespace = false ∧ c ≠ '\x7d'

/-- A line that needs no other line to close a brace, and is not indented. -/
structure FlatLine (line : String) : Prop where
  neutral : Neutral line
  begins : BeginsVisibly line

theorem BeginsVisibly.append {s : String} (h : BeginsVisibly s) (t : String) :
    BeginsVisibly (s ++ t) := by
  obtain ⟨c, rest, hs, hc⟩ := h
  exact ⟨c, rest ++ t.toList, by rw [String.toList_append, hs, List.cons_append], hc⟩

theorem BeginsVisibly.indentedTo {text : String} (h : BeginsVisibly text) : IndentedTo 0 text := by
  obtain ⟨c, rest, htext, hc, hne⟩ := h
  exact ⟨0, c, rest, by simpa using htext, hc, by simp [hne]⟩

theorem FlatLine.append {s t : String} (hs : FlatLine s) (ht : Neutral t) : FlatLine (s ++ t) :=
  ⟨hs.neutral.append ht, hs.begins.append t⟩

theorem flatLine_docComment (comment : String) : FlatLine (docComment comment) :=
  ⟨neutral_docComment comment, '/', _, toList_docComment comment, by decide⟩

theorem isIdentifierPart_visible {c : Char} (h : isIdentifierPart c = true) :
    c.isWhitespace = false ∧ c ≠ '\x7d' := by
  constructor
  · rw [Bool.eq_false_iff]
    intro hblank
    simp only [Char.isWhitespace, Bool.or_eq_true, decide_eq_true_eq] at hblank
    rcases hblank with ((rfl | rfl) | rfl) | rfl <;> exact absurd h (by decide)
  · rintro rfl
    exact absurd h (by decide)

theorem flatLine_memberName (name : String) : FlatLine (memberName name) := by
  refine ⟨neutral_memberName name, ?_⟩
  unfold memberName
  split
  · next h =>
    cases hname : name.toList with
    | nil =>
      rw [hname] at h
      exact absurd h (by decide)
    | cons c rest =>
      rw [hname] at h
      exact ⟨c, rest, hname, isIdentifierPart_visible (isIdentifierPart_of_bare_cons h)⟩
  · exact ⟨'\x22', _, toList_quoted name, by decide⟩

theorem FlatLine.withTrailingComments {text : String} (h : FlatLine text)
    (comments : List String) : FlatLine (withTrailingComments text comments) := by
  refine ⟨neutral_withTrailingComments h.neutral comments, ?_⟩
  obtain ⟨c, rest, htext, hc⟩ := h.begins
  exact ⟨c, rest ++ commentTail comments,
    by rw [toList_withTrailingComments, htext, List.cons_append], hc⟩

namespace Balanced

theorem of_flatLines {lines : List String} (h : ∀ line ∈ lines, FlatLine line) :
    Balanced lines := by
  induction lines with
  | nil => exact nil
  | cons line lines ih =>
    obtain ⟨hline, hlines⟩ := List.forall_mem_cons.mp h
    have hone : AlignedLine 0 line := by
      refine ⟨hline.neutral.closed, fun bs hbs => ?_, hline.begins.indentedTo⟩
      rw [hline.neutral.braces] at hbs
      rw [List.prefix_nil.mp hbs]
      decide
    have hfirst : Balanced [line] := by
      refine ⟨⟨hone, trivial⟩, ?_⟩
      rw [List.flatMap_singleton, hline.neutral.braces]
      rfl
    exact hfirst.append (ih hlines)

theorem comments (comments : List String) : Balanced (comments.map docComment) := by
  refine of_flatLines fun line hline => ?_
  obtain ⟨comment, _, rfl⟩ := List.mem_map.mp hline
  exact flatLine_docComment comment

/-- A block opens one brace for the lines in it, which are indented for that, and closes it. -/
theorem block {opening : String} {lines : List String} (hopening : FlatLine opening)
    (h : Balanced lines) : Balanced (block (opening ++ " \x7b") lines) := by
  have hopen : codeBraces (opening ++ " \x7b") = ['\x7b'] := by
    rw [codeBraces_append hopening.neutral.closed, hopening.neutral.braces]
    decide
  have hheading : AlignedLine 0 (opening ++ " \x7b") := by
    refine ⟨hopening.neutral.closed.append (Plain.closed (by decide)), fun bs hbs => ?_,
      (hopening.begins.append _).indentedTo⟩
    rw [hopen] at hbs
    rcases List.prefix_cons_iff.mp hbs with rfl | ⟨rest, rfl, hrest⟩
    · decide
    · rw [List.prefix_nil.mp hrest]
      decide
  have hclosing : AlignedLine 1 "\x7d" := by
    refine ⟨Plain.closed (by decide), fun bs hbs => ?_, 0, '\x7d', [], rfl, by decide, rfl⟩
    have hclose : codeBraces "\x7d" = ['\x7d'] := by decide
    rw [hclose] at hbs
    rcases List.prefix_cons_iff.mp hbs with rfl | ⟨rest, rfl, hrest⟩
    · decide
    · rw [List.prefix_nil.mp hrest]
      decide
  constructor
  · rw [DeclGen.block, List.cons_append, Aligned, hopen]
    refine ⟨hheading, aligned_append.mpr ⟨h.aligned.deeper, ?_⟩⟩
    rw [deeper_balance, h.balance_eq]
    exact ⟨hclosing, trivial⟩
  · rw [DeclGen.block, List.cons_append, List.flatMap_cons, List.flatMap_append, balance_append,
      balance_append, deeper_balance, h.balance_eq, hopen]
    decide

end Balanced

theorem EnumMember.flatLine_text (m : EnumMember) (hvalue : ∀ v ∈ m.value, Braceless v) :
    FlatLine m.text := by
  obtain ⟨name, value, comments⟩ := m
  cases value with
  | none => exact (flatLine_memberName name).withTrailingComments comments
  | some value =>
    have hsign : Neutral " = " := Braceless.neutral (by decide)
    have hnamed := ((flatLine_memberName name).append hsign).append (hvalue value rfl).neutral
    exact hnamed.withTrailingComments comments

theorem flatLine_of_mem_memberLines {ms : List EnumMember}
    (hvalues : ∀ m ∈ ms, ∀ v ∈ m.value, Braceless v) :
    ∀ line ∈ memberLines ms, FlatLine line := by
  induction ms with
  | nil => simp [memberLines]
  | cons m ms ih =>
    obtain ⟨hm, hms⟩ := List.forall_mem_cons.mp hvalues
    have hend : Neutral (memberEnd ms) := by
      unfold memberEnd
      split <;> exact Braceless.neutral (by decide)
    rw [memberLines_cons]
    exact List.forall_mem_cons.mpr ⟨(m.flatLine_text hm).append hend, ih hms⟩

theorem Property.flatLine_text (p : Property) (htype : Braceless p.typeHint.name) :
    FlatLine p.text := by
  have hmark : Neutral (if p.optional then "?" else "") := by
    split <;> exact Braceless.neutral (by decide)
  have hhint : Neutral p.typeHint.text := by
    unfold TypeHint.text
    split
    · exact htype.neutral.append (Braceless.neutral (by decide))
    · exact htype.neutral
  exact ((((flatLine_memberName p.name).append hmark).append (Braceless.neutral (by decide))).append
    hhint).append (Braceless.neutral (by decide))

theorem Property.balanced_layout (p : Property) (htype : Braceless p.typeHint.name) :
    Balanced p.layout :=
  (Balanced.comments p.leadingComments).append
    (.of_flatLines (by simpa using p.flatLine_text htype))

/-- A word of the language and a name begin a line of their own. -/
theorem flatLine_named {word name : String} (hword : Braceless word) (hbegins : BeginsVisibly word)
    (hname : Braceless name) : FlatLine (word ++ name) :=
  FlatLine.append ⟨hword.neutral, hbegins⟩ hname.neutral

theorem LiteralUnion.flatLine_text (u : LiteralUnion) (hname : Braceless u.name) :
    FlatLine u.text := by
  have hunion : Neutral (joinUnion (u.variants.map fun v =>
      withTrailingComments v.text v.trailingComments)) := by
    cases u.variants with
    | nil => exact Braceless.neutral (by decide : Braceless "never")
    | cons v vs =>
      rw [joinUnion_of_ne_nil (by simp)]
      refine Neutral.intercalate (Braceless.neutral (by decide)) fun text htext => ?_
      obtain ⟨v, _, rfl⟩ := List.mem_map.mp htext
      exact neutral_withTrailingComments (neutral_quoted v.value) v.trailingComments
  have hlead : FlatLine ("export type " ++ u.name) :=
    flatLine_named (by decide) ⟨'e', _, rfl, by decide⟩ hname
  exact ((hlead.append (Braceless.neutral (by decide))).append hunion).append
    (Braceless.neutral (by decide))

mutual

/-- The layout of a declaration closes every brace it opens. -/
theorem Declaration.balanced_layout : ∀ d : Declaration, (∀ t ∈ d.rawTexts, Braceless t) →
    Balanced d.layout
  | .discrete e, h => by
    rw [Declaration.rawTexts] at h
    obtain ⟨hname, hvalues⟩ := List.forall_mem_cons.mp h
    have hmembers : ∀ m ∈ e.members, ∀ v ∈ m.value, Braceless v := fun m hm v hv =>
      hvalues v (List.mem_filterMap.mpr ⟨m, hm, hv⟩)
    rw [Declaration.layout]
    exact (Balanced.comments _).append (Balanced.block
      (flatLine_named (by decide) ⟨'e', _, rfl, by decide⟩ hname)
      (.of_flatLines (flatLine_of_mem_memberLines hmembers)))
  | .union u, h => by
    rw [Declaration.rawTexts] at h
    rw [Declaration.layout]
    have hline : FlatLine u.text := u.flatLine_text (h u.name List.mem_cons_self)
    exact (Balanced.comments _).append (.of_flatLines (by simpa using hline))
  | .record r, h => by
    rw [Declaration.rawTexts] at h
    obtain ⟨hname, htypes⟩ := List.forall_mem_cons.mp h
    have hproperties : Balanced (r.properties.flatMap Property.layout) :=
      .flatMap fun p hp => p.balanced_layout (htypes _ (List.mem_map_of_mem hp))
    rw [Declaration.layout]
    exact (Balanced.comments _).append (Balanced.block
      (flatLine_named (by decide) ⟨'e', _, rfl, by decide⟩ hname) hproperties)
  | .space name body comments, h => by
    rw [Declaration.rawTexts] at h
    obtain ⟨hname, hbody⟩ := List.forall_mem_cons.mp h
    rw [Declaration.layout]
    exact (Balanced.comments _).append (Balanced.block
      (flatLine_named (by decide) ⟨'e', _, rfl, by decide⟩ hname) (balanced_layoutAll body hbody))

theorem balanced_layoutAll : ∀ ds : List Declaration, (∀ t ∈ rawTextsAll ds, Braceless t) →
    Balanced (layoutAll ds)
  | [], _ => by
    rw [layoutAll]
    exact .nil
  | d :: ds, h => by
    rw [rawTextsAll] at h
    obtain ⟨hd, hds⟩ := List.forall_mem_append.mp h
    rw [layoutAll]
    exact (d.balanced_layout hd).append (balanced_layoutAll ds hds)

end

/-- What a fresh printer returns for declarations whose names, types and values hold no brace,
double quote or slash is well bracketed, whatever the other texts hold, and every line of it is
indented to the braces that are open before it. -/
theorem indentation_follows_braces {ds : List Declaration}
    (h : ∀ t ∈ rawTextsAll ds, Braceless t) :
    ∃ p lines, Printer.fresh.printAll ds = .ok (p, lines) ∧
      (∀ bs, bs <+: codeBraces ("\n".intercalate lines) → 0 ≤ balance bs) ∧
      balance (codeBraces ("\n".intercalate lines)) = 0 ∧
      ∀ before line after, lines = before ++ line :: after →
        IndentedTo (balance (codeBraces ("\n".intercalate before))) line := by
  have hlines : Balanced (layoutAll ds) := balanced_layoutAll ds h
  refine ⟨Printer.fresh.printList ds, layoutAll ds, ?_, ?_, ?_, ?_⟩
  · rw [← printedLines_eq_layoutAll]
    rfl
  · intro bs hbs
    rw [codeBraces_joined hlines.aligned.closed] at hbs
    have hopen := hlines.aligned.open_nonneg (by decide) bs hbs
    omega
  · rw [codeBraces_joined hlines.aligned.closed, hlines.balance_eq]
  · intro before line after hsplit
    have haligned := hlines.aligned
    rw [hsplit, aligned_append] at haligned
    obtain ⟨hbefore, hline, _⟩ := haligned
    rw [codeBraces_joined hbefore.closed]
    have hindent := hline.indentation
    rwa [Int.zero_add] at hindent

/-- Nested namespaces with braces, quotes and comment marks wherever they may stand. -/
def crowded : List Declaration :=
  [.space "A" [
    .space "B" [
      .record ⟨"R$Request",
        [⟨"\x7b /* \x22", ⟨"A.T", false, true⟩, true, ["\x7d */ \x22"]⟩], ["\x7b"]⟩,
      .discrete ⟨"E", [⟨"\x7d", some "0x10", ["*/ \x7b"]⟩, ⟨"ON\n", none, []⟩], []⟩] ["//"],
    .union ⟨"U", [⟨"\x7b\x7b", ["\x22 \x7d"]⟩, ⟨"\\", []⟩], ["/*"]⟩] []]

theorem crowded_follows_braces : (∀ t ∈ rawTextsAll crowded, Braceless t) ∧
    ∃ p lines, Printer.fresh.printAll crowded = .ok (p, lines) ∧
      (∀ bs, bs <+: codeBraces ("\n".intercalate lines) → 0 ≤ balance bs) ∧
      balance (codeBraces ("\n".intercalate lines)) = 0 ∧
      ∀ before line after, lines = before ++ line :: after →
        IndentedTo (balance (codeBraces ("\n".intercalate before))) line := by
  have h : ∀ t ∈ rawTextsAll crowded, Braceless t := by decide
  exact ⟨h, indentation_follows_braces h⟩

end DeclGen
