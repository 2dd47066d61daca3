import DeclGen.Declaration.Wording
import DeclGen.Proofs.Text.Delimited

/-!
What a single line tells. The name, the value and the comments of a member, the parts of a property
and the variants of a union can be told from the text that they are written as.
-/

namespace DeclGen

open Text

/-- A comment as it is printed, with its terminators broken. -/
def canonicalComment (comment : String) : String := String.ofList (breakTerminators comment.toList)

theorem docComment_canonicalComment (comment : String) :
    docComment (canonicalComment comment) = docComment comment := by
  rw [docComment, canonicalComment, String.toList_ofList, breakTerminators_breakTerminators,
    docComment]

theorem map_docComment_canonical (comments : List String) :
    (comments.map canonicalComment).map docComment = comments.map docComment := by
  rw [List.map_map]
  exact List.map_congr_left fun comment _ => docComment_canonicalComment comment

theorem withTrailingComments_canonical (text : String) (comments : List String) :
    withTrailingComments text (comments.map canonicalComment) =
      withTrailingComments text comments := by
  rw [withTrailingComments, map_docComment_canonical, withTrailingComments]

/-- The comments behind a text, each with the space before it. -/
def commentTail (comments : List String) : List Char :=
  comments.flatMap fun comment => ' ' :: (docComment comment).toList

theorem commentTail_cons_append (comment : String) (comments : List String) (rest : List Char) :
    commentTail (comment :: comments) ++ rest =
      ' ' :: ((docComment comment).toList ++ (commentTail comments ++ rest)) := by
  simp [commentTail]

theorem toList_withTrailingComments (text : String) (comments : List String) :
    (withTrailingComments text comments).toList = text.toList ++ commentTail comments := by
  induction comments generalizing text with
  | nil => simp [withTrailingComments, commentTail]
  | cons comment comments ih =>
    have hsplit : withTrailingComments text (comment :: comments) =
        text ++ " " ++ withTrailingComments (docComment comment) comments := by
      rw [withTrailingComments, List.map_cons, String.intercalate_cons_cons]
      rfl
    rw [hsplit, String.toList_append, String.toList_append, ih]
    simp [commentTail]

/-- A text that does not go on with a comment. -/
def EndsComments (rest : List Char) : Prop := ∀ more, rest ≠ ' ' :: '/' :: more

/-- Comments show their texts, and what follows the last of them. -/
theorem commentTail_append_injective {comments comments' : List String} {rest rest' : List Char}
    (hrest : EndsComments rest) (hrest' : EndsComments rest')
    (h : commentTail comments ++ rest = commentTail comments' ++ rest') :
    comments.map canonicalComment = comments'.map canonicalComment ∧ rest = rest' := by
  have hopen {rest : List Char} (hrest : EndsComments rest) (comment : String) (r : List Char) :
      ' ' :: (docComment comment).toList ++ r ≠ rest := by
    rw [toList_docComment]
    exact (hrest _).symm
  apply flatMap_append_injective (fun _ => True) ?_ (fun _ _ _ => trivial) trivial trivial
    (hopen hrest) (hopen hrest') h
  intro comment _ comment' _ r r' _ _ heq
  obtain ⟨hcomment, hend⟩ := docComment_append_injective (List.cons.inj heq).2
  exact ⟨by rw [canonicalComment, canonicalComment, hcomment], hend⟩

/-- A member up to how the terminators in its comments are written. -/
def EnumMember.canonical (m : EnumMember) : EnumMember :=
  { m with trailingComments := m.trailingComments.map canonicalComment }

theorem EnumMember.text_canonical (m : EnumMember) : m.canonical.text = m.text := by
  rw [EnumMember.canonical, EnumMember.text, withTrailingComments_canonical, EnumMember.text]

/-- A member without a value, or with one that is read as an integer. -/
def EnumMember.IsNumeric (m : EnumMember) : Prop := ∀ v ∈ m.value, ∃ n, readInteger v = .ok n

/-- The value of a member behind its name. -/
def valueTail : Option String → List Char
  | none => []
  | some value => ' ' :: '=' :: ' ' :: value.toList

/-- What can stand behind the value of a member: nothing, a comma, or a comment. -/
inductive EndsValue : List Char → Prop where
  | last : EndsValue []
  | comma : EndsValue [',']
  | comment (more : List Char) : EndsValue (' ' :: '/' :: more)

/-- What can stand behind the comments of a member. -/
inductive EndsMember : List Char → Prop where
  | last : EndsMember []
  | comma : EndsMember [',']

theorem EndsMember.endsComments {rest : List Char} (h : EndsMember rest) : EndsComments rest := by
  intro more heq
  cases h with
  | last => cases heq
  | comma => cases heq

theorem EndsMember.endsValue {rest : List Char} (h : EndsMember rest) (comments : List String) :
    EndsValue (commentTail comments ++ rest) := by
  cases comments with
  | nil =>
    cases h with
    | last => exact .last
    | comma => exact .comma
  | cons comment comments =>
    rw [commentTail_cons_append, toList_docComment]
    exact .comment _

theorem EndsValue.endsName {rest : List Char} (h : EndsValue rest) (value : Option String) :
    EndsName (valueTail value ++ rest) := by
  intro c hc
  cases value with
  | none =>
    cases h with
    | last => cases hc
    | comma => cases hc; decide
    | comment => cases hc; decide
  | some value => cases hc; decide

/-- A value stops where it can be ended: it holds neither a comma nor a slash. -/
theorem EndsValue.eq_nil_of_append {rest rest' value : List Char} (h : EndsValue rest)
    (h' : EndsValue rest') (hvalue : ∀ c ∈ value, isLiteralChar c = true)
    (heq : rest = value ++ rest') : value = [] := by
  cases value with
  | nil => rfl
  | cons c value =>
    exfalso
    cases h with
    | last => cases heq
    | comma =>
      have hc := (List.cons.inj heq).1
      exact (ne_of_isLiteralChar (hvalue c List.mem_cons_self)).1 hc.symm
    | comment more =>
      -- The slash of the comment is either in the value, or what ends the other text.
      have htail := (List.cons.inj heq).2
      cases value with
      | nil =>
        change _ = rest' at htail
        rw [← htail] at h'
        cases h'
      | cons d value =>
        have hd := (List.cons.inj htail).1
        have hmem : d ∈ c :: d :: value := List.mem_cons_of_mem c List.mem_cons_self
        exact (ne_of_isLiteralChar (hvalue d hmem)).2 hd.symm

theorem EndsValue.eq_of_append {rest rest' value value' more : List Char} (h : EndsValue rest)
    (h' : EndsValue rest') (hvalue' : ∀ c ∈ value', isLiteralChar c = true)
    (hmore : value' = value ++ more) (htail : rest = more ++ rest') :
    value = value' ∧ rest = rest' := by
  have hnil : more = [] := by
    refine h.eq_nil_of_append h' (fun c hc => hvalue' c ?_) htail
    rw [hmore]
    exact List.mem_append_right value hc
  subst hnil
  exact ⟨by rw [hmore, List.append_nil], htail⟩

theorem value_append_injective {value value' rest rest' : List Char} (hrest : EndsValue rest)
    (hrest' : EndsValue rest') (hvalue : ∀ c ∈ value, isLiteralChar c = true)
    (hvalue' : ∀ c ∈ value', isLiteralChar c = true) (h : value ++ rest = value' ++ rest') :
    value = value' ∧ rest = rest' := by
  rcases List.append_eq_append_iff.mp h with ⟨more, hmore, htail⟩ | ⟨more, hmore, htail⟩
  · exact hrest.eq_of_append hrest' hvalue' hmore htail
  · obtain ⟨heq, hend⟩ := hrest'.eq_of_append hrest hvalue hmore htail
    exact ⟨heq.symm, hend.symm⟩

theorem valueTail_append_injective {value value' : Option String} {rest rest' : List Char}
    (hrest : EndsValue rest) (hrest' : EndsValue rest')
    (hvalue : ∀ v ∈ value, ∃ n, readInteger v = .ok n)
    (hvalue' : ∀ v ∈ value', ∃ n, readInteger v = .ok n)
    (h : valueTail value ++ rest = valueTail value' ++ rest') : value = value' ∧ rest = rest' := by
  -- A value begins with an equals sign, which is not how a member can end.
  have hsign {rest more : List Char} (hends : EndsValue rest) : rest ≠ ' ' :: '=' :: more := by
    intro heq
    rw [heq] at hends
    cases hends
  cases value with
  | none =>
    cases value' with
    | none => exact ⟨rfl, h⟩
    | some value' => exact absurd h (hsign hrest)
  | some value =>
    cases value' with
    | none => exact absurd h.symm (hsign hrest')
    | some value' =>
      obtain ⟨n, hn⟩ := hvalue value rfl
      obtain ⟨n', hn'⟩ := hvalue' value' rfl
      simp only [valueTail, List.cons_append, List.cons.injEq, true_and] at h
      obtain ⟨heq, hend⟩ := value_append_injective hrest hrest' (isLiteralChar_of_readInteger hn)
        (isLiteralChar_of_readInteger hn') h
      exact ⟨congrArg some (String.toList_injective heq), hend⟩

theorem EnumMember.toList_text (m : EnumMember) : m.text.toList =
    (memberName m.name).toList ++ (valueTail m.value ++ commentTail m.trailingComments) := by
  obtain ⟨name, value, comments⟩ := m
  rw [EnumMember.text, toList_withTrailingComments, ← List.append_assoc]
  cases value <;> simp [valueTail]

theorem EnumMember.text_append_injective {m m' : EnumMember} {rest rest' : List Char}
    (hm : m.IsNumeric) (hm' : m'.IsNumeric) (hrest : EndsMember rest) (hrest' : EndsMember rest')
    (h : m.text.toList ++ rest = m'.text.toList ++ rest') : m.canonical = m'.canonical ∧
      rest = rest' := by
  simp only [EnumMember.toList_text, List.append_assoc] at h
  have hends := hrest.endsValue m.trailingComments
  have hends' := hrest'.endsValue m'.trailingComments
  obtain ⟨hname, htail⟩ :=
    memberName_append_injective (hends.endsName m.value) (hends'.endsName m'.value) h
  obtain ⟨hvalue, htail⟩ := valueTail_append_injective hends hends' hm hm' htail
  obtain ⟨hcomments, hend⟩ :=
    commentTail_append_injective hrest.endsComments hrest'.endsComments htail
  exact ⟨by rw [EnumMember.canonical, EnumMember.canonical, hname, hvalue, hcomments], hend⟩

/-- What stands behind a member: a comma, unless it is the last one. -/
def memberEnd (ms : List EnumMember) : String := if ms.isEmpty then "" else ","

theorem memberLines_cons (m : EnumMember) (ms : List EnumMember) :
    memberLines (m :: ms) = (m.text ++ memberEnd ms) :: memberLines ms := by
  cases ms with
  | nil => simp [memberLines, memberEnd]
  | cons n ms => rfl

theorem memberLines_map_canonical (ms : List EnumMember) :
    memberLines (ms.map EnumMember.canonical) = memberLines ms := by
  induction ms with
  | nil => rfl
  | cons m ms ih =>
    have hend : memberEnd (ms.map EnumMember.canonical) = memberEnd ms := by simp [memberEnd]
    rw [List.map_cons, memberLines_cons, memberLines_cons, hend, ih, m.text_canonical]

theorem endsMember_memberEnd (ms : List EnumMember) : EndsMember (memberEnd ms).toList := by
  cases ms with
  | nil => exact .last
  | cons m ms =>
    have hcomma : (memberEnd (m :: ms)).toList = [','] := by simp [memberEnd]
    rw [hcomma]
    exact .comma

theorem memberLines_injective {ms ms' : List EnumMember} (hms : ∀ m ∈ ms, m.IsNumeric)
    (hms' : ∀ m ∈ ms', m.IsNumeric) (h : memberLines ms = memberLines ms') :
    ms.map EnumMember.canonical = ms'.map EnumMember.canonical := by
  induction ms generalizing ms' with
  | nil =>
    cases ms' with
    | nil => rfl
    | cons m' ms' =>
      rw [memberLines_cons] at h
      cases h
  | cons m ms ih =>
    cases ms' with
    | nil =>
      rw [memberLines_cons] at h
      cases h
    | cons m' ms' =>
      rw [memberLines_cons, memberLines_cons] at h
      obtain ⟨hm, hms⟩ := List.forall_mem_cons.mp hms
      obtain ⟨hm', hms'⟩ := List.forall_mem_cons.mp hms'
      obtain ⟨hline, hlines⟩ := List.cons.inj h
      have hchars := congrArg String.toList hline
      rw [String.toList_append, String.toList_append] at hchars
      obtain ⟨hmember, _⟩ := EnumMember.text_append_injective hm hm' (endsMember_memberEnd ms)
        (endsMember_memberEnd ms') hchars
      rw [List.map_cons, List.map_cons, hmember, ih hms hms' hlines]

/-- A name of a declaration or of a type: letters, digits, `_`, `$` and `.`, where everything beyond
ASCII counts as a letter. -/
def IsTypeName (name : String) : Prop :=
  ∀ c ∈ name.toList, c.isAlphanum = true ∨ c = '_' ∨ c = '$' ∨ c = '.' ∨ 127 < c.toNat

instance (name : String) : Decidable (IsTypeName name) :=
  List.decidableBAll (fun c : Char => c.isAlphanum = true ∨ c = '_' ∨ c = '$' ∨ c = '.' ∨
    127 < c.toNat) name.toList

/-- A property up to its keyword flag and how the terminators in its comments are written. -/
def Property.canonical (p : Property) : Property :=
  ⟨p.name, ⟨p.typeHint.name, false, p.typeHint.array⟩, p.optional,
    p.leadingComments.map canonicalComment⟩

theorem TypeHint.text_injective {t t' : TypeHint} (ht : IsTypeName t.name)
    (ht' : IsTypeName t'.name) (h : t.text = t'.text) : t.name = t'.name ∧ t.array = t'.array := by
  have hbracket {name name' : String} (hname : IsTypeName name) : name ≠ name' ++ "[]" := by
    intro heq
    have hmem : '[' ∈ name.toList := by simp [heq]
    exact absurd (hname '[' hmem) (by decide)
  obtain ⟨name, _, array⟩ := t
  obtain ⟨name', _, array'⟩ := t'
  cases array with
  | false =>
    cases array' with
    | false => exact ⟨h, rfl⟩
    | true => exact absurd h (hbracket ht)
  | true =>
    cases array' with
    | false => exact absurd h.symm (hbracket ht')
    | true => exact ⟨(String.append_left_inj "[]").mp h, rfl⟩

/-- What a property says of its type, behind its name. -/
def Property.typeTail (p : Property) : List Char :=
  (if p.optional then ['?'] else []) ++ ':' :: ' ' :: (p.typeHint.text.toList ++ [';'])

theorem Property.toList_text (p : Property) :
    p.text.toList = (memberName p.name).toList ++ p.typeTail := by
  obtain ⟨name, hint, optional, comments⟩ := p
  cases optional <;> simp [Property.text, Property.typeTail]

theorem Property.endsName_typeTail (p : Property) : EndsName p.typeTail := by
  intro c hc
  obtain ⟨name, hint, optional, comments⟩ := p
  cases optional <;> cases hc <;> decide

theorem Property.typeTail_injective {p p' : Property} (h : p.typeTail = p'.typeTail) :
    p.optional = p'.optional ∧ p.typeHint.text = p'.typeHint.text := by
  obtain ⟨_, hint, optional, _⟩ := p
  obtain ⟨_, hint', optional', _⟩ := p'
  have hoptional : optional = optional' := by
    cases optional <;> cases optional' <;> first | rfl | cases h
  subst hoptional
  refine ⟨rfl, ?_⟩
  have htype := (List.cons.inj (List.cons.inj (List.append_cancel_left h)).2).2
  exact String.toList_injective (List.append_cancel_right htype)

theorem Property.text_injective {p p' : Property} (hp : IsTypeName p.typeHint.name)
    (hp' : IsTypeName p'.typeHint.name) (h : p.text = p'.text) : p.name = p'.name ∧
      p.optional = p'.optional ∧ p.typeHint.name = p'.typeHint.name ∧
        p.typeHint.array = p'.typeHint.array := by
  have hchars := congrArg String.toList h
  rw [p.toList_text, p'.toList_text] at hchars
  obtain ⟨hname, htail⟩ :=
    memberName_append_injective p.endsName_typeTail p'.endsName_typeTail hchars
  obtain ⟨hoptional, htext⟩ := typeTail_injective htail
  exact ⟨hname, hoptional, TypeHint.text_injective hp hp' htext⟩

def LiteralVariant.canonical (v : LiteralVariant) : LiteralVariant :=
  { v with trailingComments := v.trailingComments.map canonicalComment }

/-- A variant of a union with the bar before it. -/
def LiteralVariant.chars (v : LiteralVariant) : List Char :=
  ' ' :: '|' :: ' ' :: ((quoted v.value).toList ++ commentTail v.trailingComments)

theorem LiteralVariant.endsComments_chars_append (v : LiteralVariant) (rest : List Char) :
    EndsComments (v.chars ++ rest) := by
  intro more heq
  cases heq

theorem LiteralVariant.chars_append_injective {v v' : LiteralVariant} {rest rest' : List Char}
    (hrest : EndsComments rest) (hrest' : EndsComments rest')
    (h : v.chars ++ rest = v'.chars ++ rest') : v.canonical = v'.canonical ∧ rest = rest' := by
  simp only [chars, List.cons_append, List.append_assoc, List.cons.injEq, true_and] at h
  obtain ⟨hvalue, htail⟩ := quoted_append_injective h
  obtain ⟨hcomments, hend⟩ := commentTail_append_injective hrest hrest' htail
  exact ⟨by rw [canonical, canonical, hvalue, hcomments], hend⟩

theorem variants_injective {vs vs' : List LiteralVariant}
    (h : vs.flatMap LiteralVariant.chars ++ [';'] = vs'.flatMap LiteralVariant.chars ++ [';']) :
    vs.map LiteralVariant.canonical = vs'.map LiteralVariant.canonical := by
  have hend : EndsComments [';'] := fun _ heq => by cases heq
  have hlast (v : LiteralVariant) (r : List Char) : v.chars ++ r ≠ [';'] := fun heq => by cases heq
  refine (flatMap_append_injective EndsComments ?_ ?_ hend hend hlast hlast h).1
  · intro v _ v' _ r r' hr hr' heq
    exact LiteralVariant.chars_append_injective hr hr' heq
  · exact fun v r _ => v.endsComments_chars_append r

/-- The text of a union as a type. The bar before the first variant is not written. -/
theorem toList_joinUnion (v : LiteralVariant) (vs : List LiteralVariant) :
    ' ' :: '|' :: ' ' :: (joinUnion ((v :: vs).map fun v =>
      withTrailingComments v.text v.trailingComments)).toList =
        (v :: vs).flatMap LiteralVariant.chars := by
  have hone (v : LiteralVariant) : (withTrailingComments v.text v.trailingComments).toList =
      (quoted v.value).toList ++ commentTail v.trailingComments :=
    toList_withTrailingComments _ _
  induction vs generalizing v with
  | nil => simp [joinUnion, LiteralVariant.chars, hone]
  | cons w vs ih =>
    rw [List.flatMap_cons, ← ih w]
    simp [joinUnion, LiteralVariant.chars, hone, String.intercalate_cons_cons]

theorem joinUnion_injective {vs vs' : List LiteralVariant}
    (h : joinUnion (vs.map fun v => withTrailingComments v.text v.trailingComments) =
      joinUnion (vs'.map fun v => withTrailingComments v.text v.trailingComments)) :
    vs.map LiteralVariant.canonical = vs'.map LiteralVariant.canonical := by
  -- The empty union is a word, any other one begins with a quote.
  have hnever (v : LiteralVariant) (vs : List LiteralVariant) :
      joinUnion ((v :: vs).map fun v => withTrailingComments v.text v.trailingComments) ≠
        "never" := by
    intro heq
    have hchars := toList_joinUnion v vs
    rw [heq, List.flatMap_cons, LiteralVariant.chars, toList_quoted] at hchars
    simp at hchars
  cases vs with
  | nil =>
    cases vs' with
    | nil => rfl
    | cons v' vs' => exact absurd h.symm (hnever v' vs')
  | cons v vs =>
    cases vs' with
    | nil => exact absurd h (hnever v vs)
    | cons v' vs' =>
      apply variants_injective
      rw [← toList_joinUnion, ← toList_joinUnion, h]

theorem typeAlias_injective {name name' type type' : String} (hname : IsTypeName name)
    (hname' : IsTypeName name') (h : typeAlias name type = typeAlias name' type') :
    name = name' ∧ type = type' := by
  have hblank {name : String} (hname : IsTypeName name) : ∀ c ∈ name.toList, (c != ' ') = true := by
    intro c hc
    rw [bne_iff_ne]
    rintro rfl
    exact absurd (hname ' ' hc) (by decide)
  change "export type " ++ name ++ " = " ++ type ++ ";" =
    "export type " ++ name' ++ " = " ++ type' ++ ";" at h
  have hchars := congrArg String.toList h
  simp only [String.toList_append, List.append_assoc] at hchars
  have hsplit : name.toList ++ ' ' :: '=' :: ' ' :: (type.toList ++ [';']) =
      name'.toList ++ ' ' :: '=' :: ' ' :: (type'.toList ++ [';']) := by
    simpa using hchars
  obtain ⟨hnames, htail⟩ :=
    append_injective_of_run (hblank hname) (hblank hname') (by simp) (by simp) hsplit
  have htype := (List.cons.inj (List.cons.inj (List.cons.inj htail).2).2).2
  exact ⟨String.toList_injective hnames, String.toList_injective (List.append_cancel_right htype)⟩

/-- A union up to how the terminators in its comments are written. -/
def LiteralUnion.canonical (u : LiteralUnion) : LiteralUnion :=
  ⟨u.name, u.variants.map LiteralVariant.canonical, u.leadingComments.map canonicalComment⟩

theorem LiteralUnion.text_canonical (u : LiteralUnion) : u.canonical.text = u.text := by
  have hvariants : u.canonical.variants.map
        (fun v => withTrailingComments v.text v.trailingComments) =
      u.variants.map fun v => withTrailingComments v.text v.trailingComments := by
    rw [canonical, List.map_map]
    exact List.map_congr_left fun v _ => withTrailingComments_canonical v.text v.trailingComments
  rw [LiteralUnion.text, hvariants, LiteralUnion.text]
  rfl

theorem LiteralUnion.text_injective {u u' : LiteralUnion} (hu : IsTypeName u.name)
    (hu' : IsTypeName u'.name) (h : u.text = u'.text) : u.name = u'.name ∧
      u.variants.map LiteralVariant.canonical = u'.variants.map LiteralVariant.canonical := by
  obtain ⟨hname, htype⟩ := typeAlias_injective hu hu' h
  exact ⟨hname, joinUnion_injective htype⟩

end DeclGen
