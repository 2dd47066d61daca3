import DeclGen.Declaration.Layout
import DeclGen.Proofs.Text.Scanner

/-!
The code in generated source: what is left of it without comments and without the blanks outside
literals. A declaration and the same declaration without documentation have the same code.
-/

namespace DeclGen

open Text

/-- What is left of a source without block comments and without blanks outside literals. -/
def bareCode (isSpace : Char → Bool) (text : String) : List Char :=
  ((scan .code text.toList).filter fun (region, c) =>
    region = .literal || (region = .code && !isSpace c)).map (·.2)

example : bareCode Char.isWhitespace "a: \x22/* \\\x22\x22; /* \x22 **/ b" =
    "a:\x22/* \\\x22\x22;b".toList := by decide

section

variable {isSpace : Char → Bool}

theorem bareCode_eq_sift (isSpace : Char → Bool) (text : String) :
    bareCode isSpace text = sift (fun (region, c) =>
      region = .literal || (region = .code && !isSpace c)) text := rfl

theorem bareCode_append {s : String} (hs : Closed s) (t : String) :
    bareCode isSpace (s ++ t) = bareCode isSpace s ++ bareCode isSpace t :=
  sift_append hs t

theorem bareCode_docComment (text : String) : bareCode isSpace (docComment text) = [] := by
  rw [bareCode_eq_sift, sift_of_scan (scan_docComment text)]
  simp

theorem bareCode_of_spaces {text : String} (htext : Plain text)
    (h : ∀ c ∈ text.toList, isSpace c = true) : bareCode isSpace text = [] := by
  rw [bareCode_eq_sift, sift_of_scan htext.scan_append]
  simpa using h

/-- Closed texts that differ in comments and blanks only. -/
structure SameCode (isSpace : Char → Bool) (s t : String) : Prop where
  left : Closed s
  right : Closed t
  code : bareCode isSpace s = bareCode isSpace t

namespace SameCode

theorem refl {s : String} (h : Closed s) : SameCode isSpace s s := ⟨h, h, rfl⟩

theorem trans {s t u : String} (h : SameCode isSpace s t) (h' : SameCode isSpace t u) :
    SameCode isSpace s u := ⟨h.left, h'.right, h.code.trans h'.code⟩

theorem append {s s' t t' : String} (hs : SameCode isSpace s s') (ht : SameCode isSpace t t') :
    SameCode isSpace (s ++ t) (s' ++ t') := by
  refine ⟨hs.left.append ht.left, hs.right.append ht.right, ?_⟩
  rw [bareCode_append hs.left, bareCode_append hs.right, hs.code, ht.code]

theorem docComment (text : String) : SameCode isSpace (docComment text) "" :=
  ⟨closed_docComment text, Plain.closed (by decide), bareCode_docComment text⟩

theorem spaces {text : String} (htext : Plain text) (h : ∀ c ∈ text.toList, isSpace c = true) :
    SameCode isSpace text "" :=
  ⟨htext.closed, Plain.closed (by decide), bareCode_of_spaces htext h⟩

/-- A separator between texts does not tell apart what the texts do not tell apart. -/
theorem intercalate {α : Type} {sep : String} (hsep : Closed sep) {xs : List α} {f g : α → String}
    (h : ∀ x ∈ xs, SameCode isSpace (f x) (g x)) :
    SameCode isSpace (sep.intercalate (xs.map f)) (sep.intercalate (xs.map g)) := by
  induction xs with
  | nil => simpa using refl (Plain.closed (by decide : Plain ""))
  | cons x xs ih =>
    obtain ⟨hx, hxs⟩ := List.forall_mem_cons.mp h
    cases xs with
    | nil => simpa using hx
    | cons y ys =>
      simp only [List.map_cons, String.intercalate_cons_cons] at ih ⊢
      exact (hx.append (refl hsep)).append (ih hxs)

end SameCode

theorem plain_indentation (n : Nat) : Plain (String.ofList (List.replicate (4 * n) ' ')) := by
  intro c hc
  rw [String.toList_ofList] at hc
  rw [List.eq_of_mem_replicate hc]
  decide

theorem closed_indented {line : String} (n : Nat) (h : Closed line) : Closed (indented n line) :=
  (plain_indentation n).closed.append h

/-- Lists of closed lines that differ in comments and blanks only. -/
structure SameLines (isSpace : Char → Bool) (lines lines' : List String) : Prop where
  left : ∀ line ∈ lines, Closed line
  right : ∀ line ∈ lines', Closed line
  code : lines.flatMap (bareCode isSpace) = lines'.flatMap (bareCode isSpace)

namespace SameLines

theorem nil : SameLines isSpace [] [] := ⟨by simp, by simp, rfl⟩

theorem append {xs xs' ys ys' : List String} (hx : SameLines isSpace xs xs')
    (hy : SameLines isSpace ys ys') : SameLines isSpace (xs ++ ys) (xs' ++ ys') := by
  refine ⟨List.forall_mem_append.mpr ⟨hx.left, hy.left⟩,
    List.forall_mem_append.mpr ⟨hx.right, hy.right⟩, ?_⟩
  rw [List.flatMap_append, List.flatMap_append, hx.code, hy.code]

theorem singleton {line line' : String} (h : SameCode isSpace line line') :
    SameLines isSpace [line] [line'] := by
  refine ⟨List.forall_mem_singleton.mpr h.left, List.forall_mem_singleton.mpr h.right, ?_⟩
  rw [List.flatMap_singleton, List.flatMap_singleton, h.code]

theorem cons {line line' : String} {xs xs' : List String} (h : SameCode isSpace line line')
    (hx : SameLines isSpace xs xs') : SameLines isSpace (line :: xs) (line' :: xs') :=
  (singleton h).append hx

/-- Lines of documentation are no code. -/
theorem comments (comments : List String) : SameLines isSpace (comments.map docComment) [] := by
  refine ⟨?_, by simp, ?_⟩
  · intro line hline
    obtain ⟨text, _, rfl⟩ := List.mem_map.mp hline
    exact closed_docComment text
  · simp [List.flatMap_map, bareCode_docComment]

theorem flatMap {α : Type} {xs : List α} {f g : α → List String}
    (h : ∀ x ∈ xs, SameLines isSpace (f x) (g x)) :
    SameLines isSpace (xs.flatMap f) (xs.flatMap g) := by
  induction xs with
  | nil => exact nil
  | cons x xs ih =>
    obtain ⟨hx, hxs⟩ := List.forall_mem_cons.mp h
    simpa only [List.flatMap_cons] using hx.append (ih hxs)

end SameLines

theorem withTrailingComments_nil (text : String) : withTrailingComments text [] = text :=
  String.intercalate_singleton

section

variable (hspace : isSpace ' ' = true)
include hspace

theorem bareCode_indented (n : Nat) (line : String) :
    bareCode isSpace (indented n line) = bareCode isSpace line := by
  have hblank : ∀ c ∈ (String.ofList (List.replicate (4 * n) ' ')).toList, isSpace c = true := by
    intro c hc
    rw [String.toList_ofList] at hc
    rwa [List.eq_of_mem_replicate hc]
  rw [indented, bareCode_append (plain_indentation n).closed,
    bareCode_of_spaces (plain_indentation n) hblank, List.nil_append]

theorem SameLines.deeper {xs xs' : List String} (h : SameLines isSpace xs xs') :
    SameLines isSpace (deeper xs) (deeper xs') := by
  have hclosed {ys : List String} (hy : ∀ line ∈ ys, Closed line) :
      ∀ line ∈ DeclGen.deeper ys, Closed line := by
    intro line hline
    obtain ⟨inner, hinner, rfl⟩ := List.mem_map.mp hline
    exact closed_indented 1 (hy inner hinner)
  have hcode (ys : List String) :
      (DeclGen.deeper ys).flatMap (bareCode isSpace) = ys.flatMap (bareCode isSpace) := by
    rw [DeclGen.deeper, List.flatMap_map, funext (bareCode_indented hspace 1)]
  exact ⟨hclosed h.left, hclosed h.right, by rw [hcode, hcode, h.code]⟩

theorem SameLines.block {heading : String} (hheading : Closed heading) {xs xs' : List String}
    (h : SameLines isSpace xs xs') : SameLines isSpace (block heading xs) (block heading xs') :=
  (cons (.refl hheading) (h.deeper hspace)).append
    (singleton (.refl (Plain.closed (by decide))))

/-- Comments behind a text are no code. -/
theorem sameCode_withTrailingComments {text : String} (htext : Closed text)
    (comments : List String) : SameCode isSpace (withTrailingComments text comments) text := by
  induction comments generalizing text with
  | nil =>
    rw [withTrailingComments_nil]
    exact .refl htext
  | cons comment comments ih =>
    have hblank : SameCode isSpace " " "" := .spaces (by decide) (by simpa using hspace)
    have hrest := (ih (closed_docComment comment)).trans (.docComment comment)
    have h := ((SameCode.refl htext).append hblank).append hrest
    rw [String.append_empty, String.append_empty] at h
    simpa [withTrailingComments] using h

end

/-- Lines that are joined keep their code. -/
theorem bareCode_joined (hline : isSpace '\n' = true) {lines : List String}
    (h : ∀ line ∈ lines, Closed line) :
    bareCode isSpace ("\n".intercalate lines) = lines.flatMap (bareCode isSpace) :=
  sift_joined (by simp [hline]) h

end

def EnumMember.undocumented (m : EnumMember) : EnumMember := { m with trailingComments := [] }

def LiteralVariant.undocumented (v : LiteralVariant) : LiteralVariant :=
  { v with trailingComments := [] }

def Property.undocumented (p : Property) : Property := { p with leadingComments := [] }

mutual

/-- A declaration without its comments. -/
def Declaration.undocumented : Declaration → Declaration
  | .discrete e => .discrete ⟨e.name, e.members.map EnumMember.undocumented, []⟩
  | .union u => .union ⟨u.name, u.variants.map LiteralVariant.undocumented, []⟩
  | .record r => .record ⟨r.name, r.properties.map Property.undocumented, []⟩
  | .space name body _ => .space name (undocumentedAll body) []

def undocumentedAll : List Declaration → List Declaration
  | [] => []
  | d :: ds => d.undocumented :: undocumentedAll ds

end

theorem undocumentedAll_eq_map (ds : List Declaration) :
    undocumentedAll ds = ds.map Declaration.undocumented := by
  induction ds with
  | nil => rw [undocumentedAll, List.map_nil]
  | cons d ds ih => rw [undocumentedAll, ih, List.map_cons]

mutual

/-- The texts that a declaration is written with as they are: the names of declarations and types,
and the values of members. -/
def Declaration.rawTexts : Declaration → List String
  | .discrete e => e.name :: e.members.filterMap (·.value)
  | .union u => [u.name]
  | .record r => r.name :: r.properties.map (·.typeHint.name)
  | .space name body _ => name :: rawTextsAll body

def rawTextsAll : List Declaration → List String
  | [] => []
  | d :: ds => d.rawTexts ++ rawTextsAll ds

end

theorem rawTextsAll_eq_flatMap (ds : List Declaration) :
    rawTextsAll ds = ds.flatMap Declaration.rawTexts := by
  induction ds with
  | nil => rw [rawTextsAll, List.flatMap_nil]
  | cons d ds ih => rw [rawTextsAll, ih, List.flatMap_cons]

theorem joinUnion_of_ne_nil {members : List String} (h : members ≠ []) :
    joinUnion members = " | ".intercalate members := by
  cases members with
  | nil => exact absurd rfl h
  | cons member members => rfl

section

variable {isSpace : Char → Bool} (hspace : isSpace ' ' = true)
include hspace

theorem EnumMember.sameCode (m : EnumMember) (hvalue : ∀ v ∈ m.value, Plain v) :
    SameCode isSpace m.text m.undocumented.text := by
  obtain ⟨name, value, comments⟩ := m
  cases value with
  | none =>
    have hbare : (EnumMember.mk name none []).text = memberName name := withTrailingComments_nil _
    rw [EnumMember.undocumented, hbare]
    exact sameCode_withTrailingComments hspace (closed_memberName name) comments
  | some value =>
    have hnamed : Closed (memberName name ++ " = " ++ value) :=
      ((closed_memberName name).append (Plain.closed (by decide))).append (hvalue value rfl).closed
    have hbare : (EnumMember.mk name (some value) []).text = memberName name ++ " = " ++ value :=
      withTrailingComments_nil _
    rw [EnumMember.undocumented, hbare]
    exact sameCode_withTrailingComments hspace hnamed comments

theorem sameLines_memberLines {ms : List EnumMember}
    (hvalues : ∀ m ∈ ms, ∀ v ∈ m.value, Plain v) :
    SameLines isSpace (memberLines ms) (memberLines (ms.map EnumMember.undocumented)) := by
  induction ms with
  | nil => exact .nil
  | cons m ms ih =>
    obtain ⟨hm, hms⟩ := List.forall_mem_cons.mp hvalues
    have hfirst := m.sameCode hspace hm
    cases ms with
    | nil => exact .singleton hfirst
    | cons n ms =>
      exact .cons (hfirst.append (.refl (Plain.closed (by decide)))) (ih hms)

theorem LiteralUnion.sameCode (u : LiteralUnion) (hname : Plain u.name) :
    SameCode isSpace u.text
      (LiteralUnion.mk u.name (u.variants.map LiteralVariant.undocumented) []).text := by
  have hvariant (v : LiteralVariant) : SameCode isSpace
      (withTrailingComments v.text v.trailingComments) (withTrailingComments v.text []) := by
    rw [withTrailingComments_nil]
    exact sameCode_withTrailingComments hspace (closed_quoted v.value) v.trailingComments
  have hunion (vs : List LiteralVariant) : SameCode isSpace
      (joinUnion (vs.map fun v => withTrailingComments v.text v.trailingComments))
      (joinUnion (vs.map fun v => withTrailingComments v.text [])) := by
    cases vs with
    | nil => exact .refl (Plain.closed (by decide : Plain "never"))
    | cons v vs =>
      rw [joinUnion_of_ne_nil (by simp), joinUnion_of_ne_nil (by simp)]
      exact .intercalate (Plain.closed (by decide)) fun v _ => hvariant v
  have hlead : Plain ("export type " ++ u.name ++ " = ") :=
    (Plain.append (by decide) hname).append (by decide)
  have hbare : (u.variants.map LiteralVariant.undocumented).map
        (fun v => withTrailingComments v.text v.trailingComments) =
      u.variants.map fun v => withTrailingComments v.text [] := List.map_map
  rw [LiteralUnion.text, LiteralUnion.text, hbare]
  exact ((SameCode.refl hlead.closed).append (hunion u.variants)).append
    (.refl (Plain.closed (by decide : Plain ";")))

omit hspace in
theorem Property.closed_text (p : Property) (htype : Plain p.typeHint.name) : Closed p.text := by
  have hmark : Plain (if p.optional then "?" else "") := by split <;> decide
  have hhint : Plain p.typeHint.text := by
    unfold TypeHint.text
    split
    · exact htype.append (by decide)
    · exact htype
  exact ((((closed_memberName p.name).append hmark.closed).append (Plain.closed (by decide))).append
    hhint.closed).append (Plain.closed (by decide))

omit hspace in
theorem Property.sameLines (p : Property) (htype : Plain p.typeHint.name) :
    SameLines isSpace p.layout p.undocumented.layout :=
  (SameLines.comments p.leadingComments).append (.singleton (.refl (p.closed_text htype)))

end

variable {isSpace : Char → Bool}

mutual

/-- A declaration is laid out with the same code as without its documentation. -/
theorem Declaration.sameLines (hspace : isSpace ' ' = true) :
    ∀ d : Declaration, (∀ t ∈ d.rawTexts, Plain t) →
      SameLines isSpace d.layout d.undocumented.layout
  | .discrete e, h => by
    rw [Declaration.rawTexts] at h
    obtain ⟨hname, hvalues⟩ := List.forall_mem_cons.mp h
    have hheading : Plain (enumHeading e.name) :=
      (Plain.append (by decide) hname).append (by decide)
    have hmembers : ∀ m ∈ e.members, ∀ v ∈ m.value, Plain v := fun m hm v hv =>
      hvalues v (List.mem_filterMap.mpr ⟨m, hm, hv⟩)
    rw [Declaration.layout, Declaration.undocumented, Declaration.layout]
    exact (SameLines.comments _).append
      ((sameLines_memberLines hspace hmembers).block hspace hheading.closed)
  | .union u, h => by
    rw [Declaration.rawTexts] at h
    have hname := h u.name List.mem_cons_self
    rw [Declaration.layout, Declaration.undocumented, Declaration.layout]
    exact (SameLines.comments _).append (.singleton (u.sameCode hspace hname))
  | .record r, h => by
    rw [Declaration.rawTexts] at h
    obtain ⟨hname, htypes⟩ := List.forall_mem_cons.mp h
    have hheading : Plain (recordHeading r.name) :=
      (Plain.append (by decide) hname).append (by decide)
    have hproperties : SameLines isSpace (r.properties.flatMap Property.layout)
        (r.properties.flatMap fun p => p.undocumented.layout) :=
      .flatMap fun p hp => p.sameLines (htypes _ (List.mem_map_of_mem hp))
    rw [Declaration.layout, Declaration.undocumented, Declaration.layout, Record.layout,
      Record.layout, List.flatMap_map]
    exact (SameLines.comments _).append (hproperties.block hspace hheading.closed)
  | .space name body comments, h => by
    rw [Declaration.rawTexts] at h
    obtain ⟨hname, hbody⟩ := List.forall_mem_cons.mp h
    have hheading : Plain (namespaceHeading name) :=
      (Plain.append (by decide) hname).append (by decide)
    rw [Declaration.layout, Declaration.undocumented, Declaration.layout]
    exact (SameLines.comments _).append
      ((sameLines_layoutAll hspace body hbody).block hspace hheading.closed)

theorem sameLines_layoutAll (hspace : isSpace ' ' = true) :
    ∀ ds : List Declaration, (∀ t ∈ rawTextsAll ds, Plain t) →
      SameLines isSpace (layoutAll ds) (layoutAll (undocumentedAll ds))
  | [], _ => by
    rw [layoutAll, undocumentedAll, layoutAll]
    exact .nil
  | d :: ds, h => by
    rw [rawTextsAll] at h
    obtain ⟨hd, hds⟩ := List.forall_mem_append.mp h
    rw [layoutAll, undocumentedAll, layoutAll]
    exact (d.sameLines hspace hd).append (sameLines_layoutAll hspace ds hds)

end

end DeclGen
