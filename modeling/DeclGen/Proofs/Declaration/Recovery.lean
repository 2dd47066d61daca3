import DeclGen.Proofs.Declaration.Layout
import DeclGen.Proofs.Declaration.Wording

/-!
The printed lines determine the declarations. Comments are told from the line they stand before, a
block ends with the first line that is not indented, and a heading shows what it opens; so the lines
of one declaration can be told from whatever is printed behind them.
-/

namespace DeclGen

open Text

def DiscreteEnum.canonical (e : DiscreteEnum) : DiscreteEnum :=
  ⟨e.name, e.members.map EnumMember.canonical, e.leadingComments.map canonicalComment⟩

def Record.canonical (r : Record) : Record :=
  ⟨r.name, r.properties.map Property.canonical, r.leadingComments.map canonicalComment⟩

mutual

/-- A declaration up to what is not printed of it: which type hints are keywords, and whether a
terminator in a comment was broken before it is printed. -/
def Declaration.canonical : Declaration → Declaration
  | .discrete e => .discrete e.canonical
  | .union u => .union u.canonical
  | .record r => .record r.canonical
  | .space name body comments => .space name (canonicalAll body) (comments.map canonicalComment)

def canonicalAll : List Declaration → List Declaration
  | [] => []
  | d :: ds => d.canonical :: canonicalAll ds

end

theorem canonicalAll_eq_map (ds : List Declaration) :
    canonicalAll ds = ds.map Declaration.canonical := by
  induction ds with
  | nil => rw [canonicalAll, List.map_nil]
  | cons d ds ih => rw [canonicalAll, ih, List.map_cons]

mutual

/-- The names of declarations and types are type names, and the values of members are integer
literals. Names of properties and members, literals and comments are arbitrary. -/
def Declaration.IsLegible : Declaration → Prop
  | .discrete e => IsTypeName e.name ∧ ∀ m ∈ e.members, m.IsNumeric
  | .union u => IsTypeName u.name
  | .record r => IsTypeName r.name ∧ ∀ p ∈ r.properties, IsTypeName p.typeHint.name
  | .space name body _ => IsTypeName name ∧ AllLegible body

def AllLegible : List Declaration → Prop
  | [] => True
  | d :: ds => d.IsLegible ∧ AllLegible ds

end

theorem allLegible_iff (ds : List Declaration) : AllLegible ds ↔ ∀ d ∈ ds, d.IsLegible := by
  induction ds with
  | nil => simp [AllLegible]
  | cons d ds ih => rw [AllLegible, ih, List.forall_mem_cons]

/-- A line that does not begin a comment. -/
def IsCode (line : String) : Prop := ∀ c ∈ line.toList.head?, c ≠ '/'

/-- A comment as it is printed is its canonical text between fixed delimiters. -/
theorem map_docComment (comments : List String) : comments.map docComment =
    (comments.map canonicalComment).map fun text => "/** " ++ text ++ " */" := by
  rw [List.map_map]
  rfl

/-- Comments end before the first line of code. -/
theorem comments_append_injective {comments comments' rest rest' : List String}
    (hrest : ∀ line ∈ rest.head?, IsCode line) (hrest' : ∀ line ∈ rest'.head?, IsCode line)
    (h : comments.map docComment ++ rest = comments'.map docComment ++ rest') :
    comments.map canonicalComment = comments'.map canonicalComment ∧ rest = rest' := by
  let opens (line : String) : Bool := line.toList.head? == some '/'
  have hopens (comments : List String) : ∀ line ∈ comments.map docComment, opens line = true := by
    intro line hline
    obtain ⟨comment, _, rfl⟩ := List.mem_map.mp hline
    simp [opens, toList_docComment]
  have hcode {rest : List String} (hrest : ∀ line ∈ rest.head?, IsCode line) :
      ∀ line ∈ rest.head?, opens line = false := by
    intro line hline
    rw [beq_eq_false_iff_ne]
    exact fun hslash => hrest line hline '/' hslash rfl
  obtain ⟨hlines, hends⟩ := append_injective_of_run (hopens comments) (hopens comments')
    (hcode hrest) (hcode hrest') h
  refine ⟨?_, hends⟩
  -- Equal lines hold equal canonical texts, since the delimiters around them are fixed.
  rw [map_docComment, map_docComment] at hlines
  apply (List.map_inj_right fun text text' heq => ?_).mp hlines
  exact (String.append_right_inj "/** ").mp ((String.append_left_inj " */").mp heq)

theorem deeper_injective {lines lines' : List String} (h : deeper lines = deeper lines') :
    lines = lines' := by
  apply (List.map_inj_right fun line line' heq => ?_).mp h
  exact (String.append_right_inj "    ").mp heq

/-- A block ends with the first line below its heading that is not indented. -/
theorem block_append_injective {heading heading' : String} {lines lines' rest rest' : List String}
    (h : block heading lines ++ rest = block heading' lines' ++ rest') :
    heading = heading' ∧ lines = lines' ∧ rest = rest' := by
  simp only [block, List.cons_append, List.append_assoc, List.nil_append, List.cons.injEq] at h
  have hindented (lines : List String) :
      ∀ line ∈ deeper lines, (line.toList.head? == some ' ') = true := by
    intro line hline
    obtain ⟨inner, _, rfl⟩ := List.mem_map.mp hline
    simp [indented_one]
  have hbrace (rest : List String) :
      ∀ line ∈ ("\x7d" :: rest).head?, (line.toList.head? == some ' ') = false := by
    intro line hline
    cases hline
    decide
  obtain ⟨hlines, htail⟩ := append_injective_of_run (hindented lines) (hindented lines')
    (hbrace rest) (hbrace rest') h.2
  exact ⟨h.1, deeper_injective hlines, (List.cons.inj htail).2⟩

theorem isCode_memberName (name : String) : IsCode (memberName name) := by
  intro c hc
  unfold memberName at hc
  split at hc
  · next h => exact (plain_of_isIdentifier h c (List.mem_of_mem_head? hc)).2
  · rw [toList_quoted] at hc
    cases hc
    decide

theorem Property.isCode_text (p : Property) : IsCode p.text := by
  intro c hc
  rw [p.toList_text, List.head?_append] at hc
  rcases Option.or_eq_some_iff.mp hc with hname | ⟨_, htail⟩
  · exact isCode_memberName p.name c hname
  · rintro rfl
    obtain ⟨name, hint, optional, comments⟩ := p
    cases optional <;> cases htail

theorem Property.layout_append_injective {p p' : Property} {rest rest' : List String}
    (hp : IsTypeName p.typeHint.name) (hp' : IsTypeName p'.typeHint.name)
    (h : p.layout ++ rest = p'.layout ++ rest') : p.canonical = p'.canonical ∧ rest = rest' := by
  simp only [Property.layout, List.append_assoc, List.singleton_append] at h
  have hcode (p : Property) (rest : List String) :
      ∀ line ∈ (p.text :: rest).head?, IsCode line := by
    intro line hline
    cases hline
    exact p.isCode_text
  obtain ⟨hcomments, htext⟩ := comments_append_injective (hcode p rest) (hcode p' rest') h
  obtain ⟨hname, hoptional, htype, harray⟩ :=
    Property.text_injective hp hp' (List.cons.inj htext).1
  refine ⟨?_, (List.cons.inj htext).2⟩
  rw [Property.canonical, Property.canonical, hname, hoptional, htype, harray, hcomments]

theorem properties_injective {ps ps' : List Property} (hps : ∀ p ∈ ps, IsTypeName p.typeHint.name)
    (hps' : ∀ p ∈ ps', IsTypeName p.typeHint.name)
    (h : ps.flatMap Property.layout = ps'.flatMap Property.layout) :
    ps.map Property.canonical = ps'.map Property.canonical := by
  have hlast (p : Property) (lines : List String) : p.layout ++ lines ≠ [] := by
    simp [Property.layout]
  have hlines : ps.flatMap Property.layout ++ [] = ps'.flatMap Property.layout ++ [] := by rw [h]
  refine (flatMap_append_injective (fun _ => True) ?_ (fun _ _ _ => trivial) trivial trivial hlast
    hlast hlines).1
  intro p hp p' hp' r r' _ _ heq
  exact Property.layout_append_injective (hps p hp) (hps' p' hp') heq

theorem Property.layout_canonical (p : Property) : p.canonical.layout = p.layout := by
  have hcomments : p.canonical.leadingComments.map docComment =
      p.leadingComments.map docComment := map_docComment_canonical p.leadingComments
  rw [Property.layout, hcomments, Property.layout]
  rfl

theorem layout_map_canonical (ps : List Property) :
    (ps.map Property.canonical).flatMap Property.layout = ps.flatMap Property.layout := by
  rw [List.flatMap_map, funext Property.layout_canonical]

/-- The four forms of declarations. -/
inductive Form where
  | discrete
  | union
  | record
  | space
  deriving DecidableEq, Repr

/-- The first letter of the keyword of a declaration. No two keywords share it. -/
def Form.letter : Form → Char
  | discrete => 'e'
  | union => 't'
  | record => 'i'
  | space => 'n'

theorem Form.letter_injective {f f' : Form} (h : f.letter = f'.letter) : f = f' := by
  cases f <;> cases f' <;> first | rfl | exact absurd h (by decide)

namespace Declaration

def form : Declaration → Form
  | discrete _ => .discrete
  | union _ => .union
  | record _ => .record
  | space _ _ _ => .space

def comments : Declaration → List String
  | discrete e => e.leadingComments
  | union u => u.leadingComments
  | record r => r.leadingComments
  | space _ _ comments => comments

/-- The lines of a declaration behind its comments. -/
def codeLines : Declaration → List String
  | discrete e => block (enumHeading e.name) (memberLines e.members)
  | union u => [u.text]
  | record r => block (recordHeading r.name) (r.properties.flatMap Property.layout)
  | space name body _ => block (namespaceHeading name) (layoutAll body)

theorem layout_eq (d : Declaration) : d.layout = d.comments.map docComment ++ d.codeLines := by
  cases d with
  | discrete e => rw [layout]; rfl
  | union u => rw [layout]; rfl
  | record r => rw [layout]; rfl
  | space name body comments => rw [layout]; rfl

/-- The first line behind the comments is code, and shows the keyword. -/
theorem head?_codeLines (d : Declaration) : ∃ line, d.codeLines.head? = some line ∧
    IsCode line ∧ line.toList[7]? = some d.form.letter := by
  cases d with
  | discrete e =>
    refine ⟨"export enum " ++ e.name ++ " \x7b", rfl, ?_⟩
    simp [IsCode, form, Form.letter]
  | union u =>
    refine ⟨"export type " ++ u.name ++ " = " ++ joinUnion (u.variants.map fun v =>
      withTrailingComments v.text v.trailingComments) ++ ";", rfl, ?_⟩
    simp [IsCode, form, Form.letter]
  | record r =>
    refine ⟨"export interface " ++ r.name ++ " \x7b", rfl, ?_⟩
    simp [IsCode, form, Form.letter]
  | space name body comments =>
    refine ⟨"export namespace " ++ name ++ " \x7b", rfl, ?_⟩
    simp [IsCode, form, Form.letter]

/-- Whatever is printed behind a declaration, its comments, its form and where its code begins can
be told. -/
theorem split_layout {d d' : Declaration} {rest rest' : List String}
    (h : d.layout ++ rest = d'.layout ++ rest') :
    d.comments.map canonicalComment = d'.comments.map canonicalComment ∧ d.form = d'.form ∧
      d.codeLines ++ rest = d'.codeLines ++ rest' := by
  obtain ⟨line, hhead, hcode, hletter⟩ := d.head?_codeLines
  obtain ⟨line', hhead', hcode', hletter'⟩ := d'.head?_codeLines
  have hfirst : (d.codeLines ++ rest).head? = some line := by rw [List.head?_append, hhead]; rfl
  have hfirst' : (d'.codeLines ++ rest').head? = some line' := by
    rw [List.head?_append, hhead']
    rfl
  rw [layout_eq, layout_eq, List.append_assoc, List.append_assoc] at h
  obtain ⟨hcomments, hlines⟩ :=
    comments_append_injective (by simpa [hfirst] using hcode) (by simpa [hfirst'] using hcode') h
  refine ⟨hcomments, Form.letter_injective ?_, hlines⟩
  rw [hlines, hfirst'] at hfirst
  cases hfirst
  exact Option.some.inj (hletter.symm.trans hletter')

end Declaration

theorem heading_injective {lead name name' : String}
    (h : lead ++ name ++ " \x7b" = lead ++ name' ++ " \x7b") : name = name' :=
  (String.append_right_inj lead).mp ((String.append_left_inj " \x7b").mp h)

theorem layoutAll_cons_ne_nil (d : Declaration) (ds : List Declaration) :
    layoutAll (d :: ds) ≠ [] := by
  obtain ⟨line, hhead, _⟩ := d.head?_codeLines
  intro h
  rw [layoutAll, d.layout_eq, List.append_assoc] at h
  have hnone := (List.append_eq_nil_iff.mp (List.append_eq_nil_iff.mp h).2).1
  rw [hnone] at hhead
  cases hhead

mutual

/-- The lines of a declaration show the declaration, and what is printed behind it. -/
theorem Declaration.layout_append_injective : ∀ (d d' : Declaration) (rest rest' : List String),
    d.IsLegible → d'.IsLegible → d.layout ++ rest = d'.layout ++ rest' →
      d.canonical = d'.canonical ∧ rest = rest'
  | .discrete e, d', rest, rest', hd, hd', h => by
    obtain ⟨hcomments, hform, hlines⟩ := Declaration.split_layout h
    cases d' with
    | discrete e' =>
      rw [Declaration.IsLegible] at hd hd'
      obtain ⟨hheading, hmembers, hrest⟩ := block_append_injective hlines
      have hname : e.name = e'.name := heading_injective hheading
      have hcanonical := memberLines_injective hd.2 hd'.2 hmembers
      simp only [Declaration.comments] at hcomments
      refine ⟨?_, hrest⟩
      simp only [Declaration.canonical, DiscreteEnum.canonical, hname, hcanonical, hcomments]
    | union => cases hform
    | record => cases hform
    | space => cases hform
  | .union u, d', rest, rest', hd, hd', h => by
    obtain ⟨hcomments, hform, hlines⟩ := Declaration.split_layout h
    cases d' with
    | union u' =>
      rw [Declaration.IsLegible] at hd hd'
      obtain ⟨htext, hrest⟩ := List.cons.inj hlines
      obtain ⟨hname, hcanonical⟩ := LiteralUnion.text_injective hd hd' htext
      simp only [Declaration.comments] at hcomments
      refine ⟨?_, hrest⟩
      simp only [Declaration.canonical, LiteralUnion.canonical, hname, hcanonical, hcomments]
    | discrete => cases hform
    | record => cases hform
    | space => cases hform
  | .record r, d', rest, rest', hd, hd', h => by
    obtain ⟨hcomments, hform, hlines⟩ := Declaration.split_layout h
    cases d' with
    | record r' =>
      rw [Declaration.IsLegible] at hd hd'
      obtain ⟨hheading, hproperties, hrest⟩ := block_append_injective hlines
      have hname : r.name = r'.name := heading_injective hheading
      have hcanonical := properties_injective hd.2 hd'.2 hproperties
      simp only [Declaration.comments] at hcomments
      refine ⟨?_, hrest⟩
      simp only [Declaration.canonical, Record.canonical, hname, hcanonical, hcomments]
    | discrete => cases hform
    | union => cases hform
    | space => cases hform
  | .space name body comments, d', rest, rest', hd, hd', h => by
    obtain ⟨hcomments, hform, hlines⟩ := Declaration.split_layout h
    cases d' with
    | space name' body' comments' =>
      rw [Declaration.IsLegible] at hd hd'
      obtain ⟨hheading, hbody, hrest⟩ := block_append_injective hlines
      have hname : name = name' := heading_injective hheading
      -- Between heading and brace the body stands alone, with nothing printed behind it.
      have hcanonical := layoutAll_injective body body' hd.2 hd'.2 hbody
      simp only [Declaration.comments] at hcomments
      refine ⟨?_, hrest⟩
      simp only [Declaration.canonical, hname, hcanonical, hcomments]
    | discrete => cases hform
    | union => cases hform
    | record => cases hform

theorem layoutAll_injective : ∀ ds ds' : List Declaration, AllLegible ds → AllLegible ds' →
    layoutAll ds = layoutAll ds' → canonicalAll ds = canonicalAll ds'
  | [], ds', _, _, h => by
    cases ds' with
    | nil => rfl
    | cons d' ds' => exact absurd h.symm (layoutAll_cons_ne_nil d' ds')
  | d :: ds, ds', hds, hds', h => by
    cases ds' with
    | nil => exact absurd h (layoutAll_cons_ne_nil d ds)
    | cons d' ds' =>
      rw [AllLegible] at hds hds'
      rw [layoutAll, layoutAll] at h
      obtain ⟨hfirst, hlines⟩ := d.layout_append_injective d' _ _ hds.1 hds'.1 h
      rw [canonicalAll, canonicalAll, hfirst, layoutAll_injective ds ds' hds.2 hds'.2 hlines]

end

mutual

/-- A declaration is printed as its canonical form is. -/
theorem Declaration.layout_canonical : ∀ d : Declaration, d.canonical.layout = d.layout
  | .discrete e => by
    rw [Declaration.canonical, Declaration.layout, Declaration.layout, DiscreteEnum.layout,
      DiscreteEnum.canonical, map_docComment_canonical, memberLines_map_canonical,
      DiscreteEnum.layout]
  | .union u => by
    have hcomments : u.canonical.leadingComments.map docComment =
        u.leadingComments.map docComment := map_docComment_canonical u.leadingComments
    rw [Declaration.canonical, Declaration.layout, Declaration.layout, LiteralUnion.layout,
      u.text_canonical, hcomments, LiteralUnion.layout]
  | .record r => by
    rw [Declaration.canonical, Declaration.layout, Declaration.layout, Record.layout,
      Record.canonical, map_docComment_canonical, layout_map_canonical, Record.layout]
  | .space name body comments => by
    rw [Declaration.canonical, Declaration.layout, Declaration.layout, map_docComment_canonical,
      layoutAll_canonicalAll body]

theorem layoutAll_canonicalAll : ∀ ds : List Declaration,
    layoutAll (canonicalAll ds) = layoutAll ds
  | [] => by rw [canonicalAll]
  | d :: ds => by
    rw [canonicalAll, layoutAll, layoutAll, d.layout_canonical, layoutAll_canonicalAll ds]

end

/-- The printed lines determine the declarations up to what is not printed of them, and nothing
more. -/
theorem printAll_eq_iff_canonical_eq {ds ds' : List Declaration}
    (hds : ∀ d ∈ ds, d.IsLegible) (hds' : ∀ d ∈ ds', d.IsLegible) :
    (Printer.fresh.printAll ds).map (·.2) = (Printer.fresh.printAll ds').map (·.2) ↔
      ds.map Declaration.canonical = ds'.map Declaration.canonical := by
  have hprinted (ds : List Declaration) :
      (Printer.fresh.printAll ds).map (·.2) = .ok (layoutAll ds) := by
    rw [← printedLines_eq_layoutAll]
    rfl
  rw [hprinted, hprinted, ← canonicalAll_eq_map, ← canonicalAll_eq_map]
  constructor
  · intro h
    exact layoutAll_injective ds ds' ((allLegible_iff ds).mpr hds) ((allLegible_iff ds').mpr hds')
      (Except.ok.inj h)
  · intro h
    rw [← layoutAll_canonicalAll ds, h, layoutAll_canonicalAll]

/-- A namespace with an enum and a record, where a comment stands in three places. -/
def documented (keyword : Bool) (comment : String) : Declaration :=
  .space "Common" [
    .discrete ⟨"Mode", [⟨"ON", some "0x1", [comment]⟩, ⟨"8 KHZ", none, []⟩], [comment]⟩,
    .record ⟨"Point", [⟨"x", ⟨"number", keyword, true⟩, true, [comment]⟩], []⟩] []

theorem isLegible_documented (keyword : Bool) (comment : String) :
    (documented keyword comment).IsLegible := by
  have hvalue : ∃ n, readInteger "0x1" = .ok n := ⟨1, rfl⟩
  have hnames : ∀ name ∈ ["Common", "Mode", "Point", "number"], IsTypeName name := by decide
  simp only [List.forall_mem_cons] at hnames
  obtain ⟨hspace, henum, hrecord, htype, _⟩ := hnames
  simp [documented, Declaration.IsLegible, AllLegible, EnumMember.IsNumeric, hvalue, hspace, henum,
    hrecord, htype]

/-- The same comment with its terminator broken, under another keyword flag, is printed alike. -/
theorem canonical_documented :
    (documented true "a */ b").IsLegible ∧ (documented false "a *\\/ b").IsLegible ∧
      [documented true "a */ b"].map Declaration.canonical =
        [documented false "a *\\/ b"].map Declaration.canonical := by
  refine ⟨isLegible_documented _ _, isLegible_documented _ _, ?_⟩
  apply (printAll_eq_iff_canonical_eq ?_ ?_).mp
  · have hlines : printedLines [documented true "a */ b"] =
        printedLines [documented false "a *\\/ b"] := by decide +kernel
    exact congrArg Except.ok hlines
  · simp [isLegible_documented]
  · simp [isLegible_documented]

end DeclGen
