import DeclGen.Declaration.Numbering
import DeclGen.Proofs.Declaration.Wording
import DeclGen.Proofs.Schema.Offence
import DeclGen.Proofs.Schema.Source
import DeclGen.Schema.Mapping
import Mathlib.Data.List.Basic

/-!
What it means that a text is present. Loading never gives an empty text, so a text of a loaded model
is present in one sense only: classification, printing, numbering and annotation all take the same
elements and parameters for those that have one.
-/

namespace DeclGen

open Text Xml

/-- Every value that a result may give satisfies `P`. -/
def Yields {ε α : Type} (P : α → Prop) (result : Except ε α) : Prop :=
  ∀ value, result = .ok value → P value

section

variable {ε α β : Type} {P : α → Prop} {Q : β → Prop}

theorem Yields.pure {value : α} (h : P value) : Yields P (pure value : Except ε α) := by
  intro value' hvalue
  cases hvalue
  exact h

theorem Yields.bind {result : Except ε α} {next : α → Except ε β} (h : Yields P result)
    (hnext : ∀ value, P value → Yields Q (next value)) : Yields Q (result >>= next) := by
  intro value hvalue
  cases result with
  | error e => cases hvalue
  | ok inner => exact hnext inner (h inner rfl) value hvalue

theorem Yields.mapM {load : Tree → Except ε α} (h : ∀ t, Yields P (load t)) (ts : List Tree) :
    Yields (∀ value ∈ ·, P value) (ts.mapM load) := by
  induction ts with
  | nil => exact .pure (by simp)
  | cons t ts ih =>
    rw [List.mapM_cons]
    refine (h t).bind fun value hvalue => ih.bind fun values hvalues => .pure ?_
    exact List.forall_mem_cons.mpr ⟨hvalue, hvalues⟩

end

namespace Load

theorem optional_ne_empty (t : Tree) (key : String) : optional t key ≠ some "" := by
  rw [optional_eq_ite]
  by_cases hkey : t.attributeText key = ""
  · rw [if_pos hkey]
    exact nofun
  · rw [if_neg hkey]
    exact fun h => hkey (Option.some.inj h)

theorem yields_required (t : Tree) (key : String) : Yields (· ≠ "") (required t key) :=
  fun _ h => (required_eq_ok h).2

theorem yields_element (t : Tree) : Yields Element.IsFilled (element t) :=
  (yields_required t "name").bind fun _ hname => .pure ⟨hname, optional_ne_empty t "value"⟩

theorem yields_enumeration (t : Tree) : Yields Enumeration.IsFilled (enumeration t) :=
  (yields_required t "name").bind fun _ hname =>
    (Yields.mapM yields_element _).bind fun _ helements => .pure ⟨hname, helements⟩

theorem yields_param (t : Tree) : Yields Param.IsFilled (param t) := by
  refine (yields_required t "name").bind fun _ hname => ?_
  refine (yields_required t "type").bind fun _ htype => .pure ⟨hname, htype, ?_⟩
  simp only [Param.optionalFields, List.forall_mem_cons]
  simp [optional_ne_empty]

theorem yields_struct (t : Tree) : Yields Struct.IsFilled (struct t) :=
  (yields_required t "name").bind fun _ hname =>
    (Yields.mapM yields_param _).bind fun _ hparams => .pure ⟨hname, hparams⟩

theorem yields_function (t : Tree) : Yields Function.IsFilled (function t) := by
  refine (yields_required t "name").bind fun name hname => ?_
  refine (yields_required t "messagetype").bind fun word _ => ?_
  have hany : Yields (fun _ => True) (messageKind name word) := fun _ _ => trivial
  refine hany.bind fun kind _ => ?_
  exact (Yields.mapM yields_param _).bind fun _ hparams =>
    .pure ⟨hname, optional_ne_empty t "functionID", hparams⟩

theorem yields_interface (t : Tree) : Yields Interface.IsFilled (interface t) := by
  refine (yields_required t "name").bind fun _ hname => ?_
  refine (Yields.mapM yields_enumeration _).bind fun _ henums => ?_
  refine (Yields.mapM yields_struct _).bind fun _ hstructs => ?_
  refine (Yields.mapM yields_function _).bind fun _ hfunctions => ?_
  exact .pure ⟨hname, henums, hstructs, hfunctions⟩

end Load

namespace Schema

theorem yields_ofTree (t : Tree) : Yields IsFilled (ofTree t) := by
  unfold ofTree
  split
  · exact (Yields.mapM Load.yields_interface _).bind fun _ hinterfaces =>
      .pure ⟨Load.optional_ne_empty t "name", Load.optional_ne_empty t "version", hinterfaces⟩
  · exact nofun

/-- A model that some document, in bytes or in characters, is loaded to. -/
def IsLoaded (s : Schema) : Prop :=
  (∃ bytes, ofBytes bytes = .ok s) ∨ ∃ text, ofText text = .ok s

theorem yields_ofDocument (read : Except DocumentError Tree) :
    Yields IsFilled (ofDocument read) := by
  intro s h
  unfold ofDocument at h
  cases read with
  | error e => cases h
  | ok tree =>
    simp only at h
    cases htree : ofTree tree with
    | error e =>
      rw [htree] at h
      cases h
    | ok s' =>
      rw [htree] at h
      cases h
      exact yields_ofTree tree s htree

theorem IsLoaded.isFilled {s : Schema} (h : s.IsLoaded) : s.IsFilled := by
  rcases h with ⟨bytes, h⟩ | ⟨text, h⟩
  · exact yields_ofDocument _ s h
  · exact yields_ofDocument _ s h

end Schema

theorem given_eq_self {text : Option String} (h : text ≠ some "") : given text = text := by
  cases text with
  | none => rfl
  | some text =>
    have hne : text ≠ "" := fun hempty => h (congrArg some hempty)
    simp [given, hne]

/-- The member that an element becomes in a discrete enum. -/
def Element.member (x : Element) : EnumMember := ⟨x.name, x.value, x.description⟩

/-- The stages agree on whether an element has a value: whether alone it makes an enumeration
discrete, whether its member is printed with more than its name and its comments, and whether its
number is another one than the next by count. -/
structure Element.StagesAgree (x : Element) : Prop where
  classified : (Enumeration.mk "" [x] []).shape = .discrete ↔ x.value ≠ none
  printed : x.member.text ≠ withTrailingComments (memberName x.name) x.description ↔ x.value ≠ none
  numbered : (∃ next, numberFrom next [x.member] ≠ .ok [next]) ↔ x.value ≠ none

theorem shape_eq_discrete_iff {e : Enumeration} (h : ∀ x ∈ e.elements, x.value ≠ some "") :
    e.shape = .discrete ↔ ∃ x ∈ e.elements, x.value ≠ none := by
  have hany : e.shape = .discrete ↔ ∃ x ∈ e.elements, (given x.value).isSome = true := by
    rw [Enumeration.shape, ← List.any_eq_true]
    cases e.elements.any fun x => (given x.value).isSome <;> simp
  rw [hany]
  apply exists_congr
  intro x
  apply and_congr_right
  intro hx
  rw [given_eq_self (h x hx), Option.isSome_iff_ne_none]

/-- A member that has a value is printed with it. -/
theorem text_ne_of_value {m : EnumMember} (h : m.value ≠ none) :
    m.text ≠ withTrailingComments (memberName m.name) m.trailingComments := by
  obtain ⟨value, hvalue⟩ := Option.ne_none_iff_exists'.mp h
  intro heq
  have hlength := congrArg (fun text => text.toList.length) heq
  simp only [EnumMember.toList_text, toList_withTrailingComments, List.length_append, hvalue,
    valueTail, List.length_cons] at hlength
  omega

/-- A member that has a value is not numbered by the count alone. -/
theorem exists_number_ne {m : EnumMember} (h : m.value ≠ none) :
    ∃ next, numberFrom next [m] ≠ .ok [next] := by
  obtain ⟨value, hvalue⟩ := Option.ne_none_iff_exists'.mp h
  have hread (next : Int) : numberFrom next [m] = (readInteger value).map fun n => [n] := by
    rw [numberFrom, hvalue]
    cases hresult : readInteger value with
    | ok n => simp only [hresult]; rfl
    | error fault => simp only [hresult]; rfl
  cases hresult : readInteger value with
  | error fault => exact ⟨0, by rw [hread, hresult]; exact nofun⟩
  | ok n =>
    refine ⟨n + 1, ?_⟩
    rw [hread, hresult]
    intro heq
    have hnext : n = n + 1 := (List.cons.inj (Except.ok.inj heq)).1
    omega

theorem Element.stagesAgree {x : Element} (h : x.value ≠ some "") : x.StagesAgree := by
  refine ⟨?_, ?_, ?_⟩
  · rw [shape_eq_discrete_iff (by simpa using h)]
    simp
  · constructor
    · intro htext hnone
      apply htext
      rw [EnumMember.text, Element.member, hnone]
    · exact text_ne_of_value (m := x.member)
  · constructor
    · rintro ⟨next, hnumber⟩ hnone
      apply hnumber
      rw [numberFrom, Element.member, hnone]
      rfl
    · exact exists_number_ne (m := x.member)

/-- What it means for an enumeration that the stages agree. -/
structure Enumeration.StagesAgree (e : Enumeration) : Prop where
  discrete_iff : (∃ d, e.declaration = .discrete d) ↔ ∃ x ∈ e.elements, x.value ≠ none
  union_iff : (∃ u, e.declaration = .union u) ↔ ∀ x ∈ e.elements, x.value = none
  members : ∀ d, e.declaration = .discrete d → ∀ m ∈ d.members, m.value ≠ some ""
  elements : ∀ x ∈ e.elements, x.StagesAgree

theorem Enumeration.exists_discrete_iff (e : Enumeration) :
    (∃ d, e.declaration = .discrete d) ↔ e.shape = .discrete := by
  rw [declaration]
  cases e.shape <;> simp

theorem Enumeration.exists_union_iff (e : Enumeration) :
    (∃ u, e.declaration = .union u) ↔ e.shape ≠ .discrete := by
  rw [declaration]
  cases e.shape <;> simp

theorem Enumeration.eq_discreteEnum_of_declaration {e : Enumeration} {d : DiscreteEnum}
    (h : e.declaration = .discrete d) : d = e.discreteEnum := by
  rw [declaration] at h
  cases hshape : e.shape with
  | discrete =>
    rw [hshape] at h
    exact (Declaration.discrete.inj h).symm
  | literalUnion =>
    rw [hshape] at h
    cases h

theorem Enumeration.IsFilled.stagesAgree {e : Enumeration} (h : e.IsFilled) : e.StagesAgree := by
  have hvalue : ∀ x ∈ e.elements, x.value ≠ some "" := fun x hx => (h.2 x hx).2
  constructor
  · rw [e.exists_discrete_iff, shape_eq_discrete_iff hvalue]
  · rw [e.exists_union_iff, ne_eq, shape_eq_discrete_iff hvalue]
    simp
  · intro d hd m hm
    rw [eq_discreteEnum_of_declaration hd] at hm
    obtain ⟨x, hx, rfl⟩ := List.mem_map.mp hm
    exact hvalue x hx
  · exact fun x hx => Element.stagesAgree (hvalue x hx)

/-- The fields that constrain the value of a parameter, under their labels in its annotation. -/
def Param.constraintFields (p : Param) : List (String × Option String) :=
  [("default value", p.defvalue), ("minimum length", p.minlength), ("maximum length", p.maxlength),
    ("minimum value", p.minvalue), ("maximum value", p.maxvalue)]

/-- The constraint fields that are not absent, as they are annotated. -/
def Param.annotations (p : Param) : List String :=
  p.constraintFields.filterMap fun (label, value) => value.map (label ++ " = " ++ ·)

/-- The annotation is absent when all its fields are, and else it lists the others. -/
structure Param.AnnotationAgrees (p : Param) : Prop where
  none_iff : p.constraintText = none ↔ ∀ field ∈ p.constraintFields, field.2 = none
  listed : ∀ text, p.constraintText = some text → text = ", ".intercalate p.annotations

theorem Param.IsFilled.constraintFields_ne_empty {p : Param} (h : p.IsFilled) :
    ∀ field ∈ p.constraintFields, field.2 ≠ some "" := by
  have hoptional := h.2.2
  simp only [Param.optionalFields, List.forall_mem_cons] at hoptional
  obtain ⟨_, _, hdefault, hminValue, hmaxValue, hminLength, hmaxLength, _⟩ := hoptional
  simp only [Param.constraintFields, List.forall_mem_cons]
  exact ⟨hdefault, hminLength, hmaxLength, hminValue, hmaxValue, by simp⟩

theorem Param.IsFilled.constraints_eq {p : Param} (h : p.IsFilled) : p.constraints =
    p.constraintFields.filterMap fun (label, value) => value.map (label, ·) := by
  apply List.filterMap_congr
  intro field hfield
  change (given field.2).map _ = field.2.map _
  rw [given_eq_self (h.constraintFields_ne_empty field hfield)]

theorem Param.IsFilled.annotationAgrees {p : Param} (h : p.IsFilled) : p.AnnotationAgrees := by
  have hannotations : p.annotations =
      p.constraints.map fun field => field.1 ++ " = " ++ field.2 := by
    rw [h.constraints_eq, List.map_filterMap, Param.annotations]
    apply List.filterMap_congr
    rintro ⟨label, value⟩ _
    cases value <;> rfl
  have hempty : p.constraints = [] ↔ ∀ field ∈ p.constraintFields, field.2 = none := by
    rw [h.constraints_eq, List.filterMap_eq_nil_iff]
    simp only [Option.map_eq_none_iff]
  constructor
  · rw [← hempty, Param.constraintText]
    cases p.constraints <;> simp
  · intro text htext
    rw [hannotations]
    rw [Param.constraintText] at htext
    split at htext
    · cases htext
    · exact (Option.some.inj htext).symm

def Interface.params (i : Interface) : List Param :=
  i.structs.flatMap (·.params) ++ i.functions.flatMap (·.params)

theorem Interface.IsFilled.isFilled_params {i : Interface} (h : i.IsFilled) :
    ∀ p ∈ i.params, p.IsFilled := by
  obtain ⟨_, _, hstructs, hfunctions⟩ := h
  intro p hp
  rcases List.mem_append.mp hp with hp | hp
  · obtain ⟨s, hs, hp⟩ := List.mem_flatMap.mp hp
    exact (hstructs s hs).2 p hp
  · obtain ⟨f, hf, hp⟩ := List.mem_flatMap.mp hp
    exact (hfunctions f hf).2.2 p hp

/-- In the model of a loaded document presence means the same to every stage: required texts are not
empty, optional ones are absent or not empty, and the declarations and annotations that are made of
it count the same texts as given. -/
theorem Schema.presence_of_isLoaded {s : Schema} (h : s.IsLoaded) :
    s.IsFilled ∧ ∀ i ∈ s.interfaces,
      (∀ e ∈ i.enums, e.StagesAgree) ∧ ∀ p ∈ i.params, p.AnnotationAgrees := by
  have hfilled := h.isFilled
  refine ⟨hfilled, ?_⟩
  intro i hi
  have hinterface := hfilled.2.2 i hi
  refine ⟨?_, ?_⟩
  · intro e he
    exact (hinterface.2.1 e he).stagesAgree
  · intro p hp
    exact (hinterface.isFilled_params p hp).annotationAgrees

namespace Schema

/-- A document with an empty value and an empty bound, each beside one that is given. -/
def blankDocument : String :=
  "<interfaces><interface name='A'><enum name='E'><element name='X' value=''/>" ++
    "<element name='Y' value='1'/></enum><struct name='S'><param name='p' type='T' " ++
      "minvalue='0' maxvalue=''/></struct></interface></interfaces>"

/-- The model of that document, where the empty texts are absent. -/
def blankSchema : Schema :=
  ⟨[⟨"A", [⟨"E", [⟨"X", none, []⟩, ⟨"Y", some "1", []⟩], []⟩],
    [⟨"S", [⟨"p", "T", none, none, none, some "0", none, none, none, []⟩], []⟩], [], []⟩],
    none, none⟩

theorem ofText_blankDocument : ofText blankDocument = .ok blankSchema := by
  -- a list of bytes evaluates faster than the loop that makes it of a text
  have hloaded : (ofText blankDocument).toOption = some blankSchema := by
    rw [ofText, readText, bytes_toList]
    decide +kernel
  cases hresult : ofText blankDocument with
  | error e =>
    rw [hresult] at hloaded
    cases hloaded
  | ok s =>
    rw [hresult] at hloaded
    exact congrArg Except.ok (Option.some.inj hloaded)

theorem presence_blankSchema : blankSchema.IsLoaded ∧ blankSchema.IsFilled ∧
    ∀ i ∈ blankSchema.interfaces,
      (∀ e ∈ i.enums, e.StagesAgree) ∧ ∀ p ∈ i.params, p.AnnotationAgrees := by
  have hloaded : blankSchema.IsLoaded := .inr ⟨blankDocument, ofText_blankDocument⟩
  exact ⟨hloaded, presence_of_isLoaded hloaded⟩

end Schema

end DeclGen
