import DeclGen.Proofs.Declaration.Layout
import DeclGen.Proofs.Declaration.Numbering
import DeclGen.Proofs.Schema.Generation
import DeclGen.Proofs.Schema.Presence

/-!
Empty optional texts beside absent ones. To take empty texts for absent ones changes the
declarations of a model in one place only: members of discrete enums lose their empty values. The
source stays as it is if and only if there is no such member, since an empty value is printed as an
equals sign with nothing behind it. Numbers stay as they are unless an empty value is read for one.
-/

namespace DeclGen

open Text

theorem given_empty : given (some "") = none := rfl

theorem given_eq_some {text : Option String} {word : String} :
    given text = some word ↔ text = some word ∧ word ≠ "" := by
  cases text with
  | none => simp [given]
  | some text => simp [given]

theorem given_given (text : Option String) : given (given text) = given text := by
  apply given_eq_self
  intro h
  exact (given_eq_some.mp h).2 rfl

/-- A comparison with a word does not tell empty texts from absent ones. -/
theorem given_beq (text : Option String) {word : String} (hword : word ≠ "") :
    (given text == some word) = (text == some word) := by
  rw [Bool.eq_iff_iff, beq_iff_eq, beq_iff_eq, given_eq_some]
  simp [hword]

def EnumMember.withoutEmpty (m : EnumMember) : EnumMember := { m with value := given m.value }

def DiscreteEnum.withoutEmpty (e : DiscreteEnum) : DiscreteEnum :=
  { e with members := e.members.map EnumMember.withoutEmpty }

mutual

/-- A declaration where members with an empty value have none. -/
def Declaration.withoutEmpty : Declaration → Declaration
  | .discrete e => .discrete e.withoutEmpty
  | .union u => .union u
  | .record r => .record r
  | .space name body comments => .space name (withoutEmptyAll body) comments

def withoutEmptyAll : List Declaration → List Declaration
  | [] => []
  | d :: ds => d.withoutEmpty :: withoutEmptyAll ds

end

theorem withoutEmptyAll_eq_map (ds : List Declaration) :
    withoutEmptyAll ds = ds.map Declaration.withoutEmpty := by
  induction ds with
  | nil => rw [withoutEmptyAll, List.map_nil]
  | cons d ds ih => rw [withoutEmptyAll, ih, List.map_cons]

/-- The number of members with an empty value. -/
def DiscreteEnum.emptyValues (e : DiscreteEnum) : Nat := e.members.countP (·.value = some "")

mutual

/-- The number of members with an empty value, at any depth. -/
def Declaration.emptyValues : Declaration → Nat
  | .discrete e => e.emptyValues
  | .union _ => 0
  | .record _ => 0
  | .space _ body _ => emptyValuesAll body

def emptyValuesAll : List Declaration → Nat
  | [] => 0
  | d :: ds => d.emptyValues + emptyValuesAll ds

end

theorem Declaration.emptyValues_record (r : Record) : (Declaration.record r).emptyValues = 0 := by
  rw [Declaration.emptyValues]

theorem emptyValuesAll_eq_zero {ds : List Declaration} :
    emptyValuesAll ds = 0 ↔ ∀ d ∈ ds, d.emptyValues = 0 := by
  induction ds with
  | nil => simp [emptyValuesAll]
  | cons d ds ih => simp [emptyValuesAll, ih]

theorem EnumMember.withoutEmpty_eq_self {m : EnumMember} (h : m.value ≠ some "") :
    m.withoutEmpty = m := by
  rw [withoutEmpty, given_eq_self h]

theorem DiscreteEnum.withoutEmpty_eq_self {e : DiscreteEnum} (h : e.emptyValues = 0) :
    e.withoutEmpty = e := by
  have hmembers : ∀ m ∈ e.members, m.withoutEmpty = m := by
    intro m hm
    apply EnumMember.withoutEmpty_eq_self
    simpa using List.countP_eq_zero.mp h m hm
  rw [withoutEmpty, List.map_congr_left hmembers, List.map_id']

mutual

theorem Declaration.withoutEmpty_eq_self : ∀ d : Declaration, d.emptyValues = 0 →
    d.withoutEmpty = d
  | .discrete e, h => by
    rw [Declaration.emptyValues] at h
    rw [Declaration.withoutEmpty, DiscreteEnum.withoutEmpty_eq_self h]
  | .union u, _ => by rw [Declaration.withoutEmpty]
  | .record r, _ => by rw [Declaration.withoutEmpty]
  | .space name body comments, h => by
    rw [Declaration.emptyValues] at h
    rw [Declaration.withoutEmpty, withoutEmptyAll_eq_self body h]

theorem withoutEmptyAll_eq_self : ∀ ds : List Declaration, emptyValuesAll ds = 0 →
    withoutEmptyAll ds = ds
  | [], _ => by rw [withoutEmptyAll]
  | d :: ds, h => by
    rw [emptyValuesAll, Nat.add_eq_zero_iff] at h
    rw [withoutEmptyAll, d.withoutEmpty_eq_self h.1, withoutEmptyAll_eq_self ds h.2]

end

/-- The number of equals signs in lines. -/
def equalsSigns (lines : List String) : Nat := (lines.flatMap String.toList).count '='

theorem equalsSigns_cons (line : String) (lines : List String) :
    equalsSigns (line :: lines) = line.toList.count '=' + equalsSigns lines := by
  simp [equalsSigns]

theorem equalsSigns_append (lines lines' : List String) :
    equalsSigns (lines ++ lines') = equalsSigns lines + equalsSigns lines' := by
  simp [equalsSigns]

theorem equalsSigns_deeper (lines : List String) :
    equalsSigns (deeper lines) = equalsSigns lines := by
  simp [equalsSigns, deeper, List.count_flatMap, Function.comp_def, indented_one]

theorem equalsSigns_block (heading : String) (lines : List String) :
    equalsSigns (block heading lines) = heading.toList.count '=' + equalsSigns lines := by
  have hbrace : equalsSigns ["\x7d"] = 0 := by simp [equalsSigns]
  rw [block, List.cons_append, equalsSigns_cons, equalsSigns_append, equalsSigns_deeper, hbrace,
    Nat.add_zero]

theorem count_joined (lines : List String) :
    ("\n".intercalate lines).toList.count '=' = equalsSigns lines := by
  induction lines with
  | nil => rfl
  | cons line lines ih =>
    cases lines with
    | nil => simp [equalsSigns]
    | cons next lines =>
      rw [String.intercalate_cons_cons, equalsSigns_cons, ← ih]
      simp

/-- Equal sources have the same number of equals signs in the lines of their declarations. -/
theorem equalsSigns_of_sourceText_eq {ds ds' : List Declaration} {generator : String}
    (h : sourceText ds generator = sourceText ds' generator) :
    equalsSigns (layoutAll ds) = equalsSigns (layoutAll ds') := by
  have hcount := congrArg (fun text => text.toList.count '=') h
  simp only [sourceText, sourceLines, String.toList_append, List.count_append, count_joined,
    equalsSigns_cons, printedLines_eq_layoutAll] at hcount
  omega

/-- An empty value is printed as an equals sign. -/
theorem EnumMember.count_text (m : EnumMember) : m.text.toList.count '=' =
    m.withoutEmpty.text.toList.count '=' + if m.value = some "" then 1 else 0 := by
  by_cases hvalue : m.value = some ""
  · rw [toList_text, toList_text]
    simp [withoutEmpty, hvalue, given_empty, valueTail]
    omega
  · rw [withoutEmpty_eq_self hvalue, if_neg hvalue, Nat.add_zero]

theorem equalsSigns_memberLines (ms : List EnumMember) : equalsSigns (memberLines ms) =
    equalsSigns (memberLines (ms.map EnumMember.withoutEmpty)) + ms.countP (·.value = some "") := by
  induction ms with
  | nil => rfl
  | cons m ms ih =>
    have hend : memberEnd (ms.map EnumMember.withoutEmpty) = memberEnd ms := by simp [memberEnd]
    rw [List.map_cons, memberLines_cons, memberLines_cons, equalsSigns_cons, equalsSigns_cons, ih,
      hend, List.countP_cons]
    simp only [String.toList_append, List.count_append, m.count_text, decide_eq_true_eq]
    omega

mutual

/-- A declaration is printed with one equals sign more for every empty value. -/
theorem Declaration.equalsSigns_layout : ∀ d : Declaration,
    equalsSigns d.layout = equalsSigns d.withoutEmpty.layout + d.emptyValues
  | .discrete e => by
    have hmembers := equalsSigns_memberLines e.members
    simp only [Declaration.layout, Declaration.withoutEmpty, Declaration.emptyValues,
      DiscreteEnum.layout, DiscreteEnum.withoutEmpty, DiscreteEnum.emptyValues, equalsSigns_append,
      equalsSigns_block]
    omega
  | .union u => by rw [Declaration.withoutEmpty, Declaration.emptyValues, Nat.add_zero]
  | .record r => by rw [Declaration.withoutEmpty, Declaration.emptyValues, Nat.add_zero]
  | .space name body comments => by
    have hbody := equalsSigns_layoutAll body
    simp only [Declaration.layout, Declaration.withoutEmpty, Declaration.emptyValues,
      equalsSigns_append, equalsSigns_block]
    omega

theorem equalsSigns_layoutAll : ∀ ds : List Declaration,
    equalsSigns (layoutAll ds) = equalsSigns (layoutAll (withoutEmptyAll ds)) + emptyValuesAll ds
  | [] => by rw [withoutEmptyAll, emptyValuesAll, Nat.add_zero]
  | d :: ds => by
    have hfirst := d.equalsSigns_layout
    have hrest := equalsSigns_layoutAll ds
    simp only [layoutAll, withoutEmptyAll, emptyValuesAll, equalsSigns_append]
    omega

end

/-- Empty values count as absent in a source if and only if there are none. -/
theorem sourceText_withoutEmpty_iff (ds : List Declaration) (generator : String) :
    sourceText (withoutEmptyAll ds) generator = sourceText ds generator ↔
      emptyValuesAll ds = 0 := by
  constructor
  · intro h
    have hsigns := equalsSigns_of_sourceText_eq h
    rw [equalsSigns_layoutAll ds] at hsigns
    omega
  · intro h
    rw [withoutEmptyAll_eq_self ds h]

/-- An empty value is the first written value that is no integer literal. -/
def ReadsEmpty (members : List EnumMember) : Prop :=
  ∃ before m after, members = before ++ m :: after ∧ (∀ b ∈ before, b.IsReadable) ∧
    m.value = some ""

theorem readInteger_empty : readInteger "" = .error (.malformed "") := rfl

/-- A text that is refused as malformed is shown as it is. -/
theorem eq_of_readInteger_malformed {text shown : String}
    (h : readInteger text = .error (.malformed shown)) : shown = text := by
  unfold readInteger at h
  simp only at h
  split at h
  · cases h
    rfl
  · split at h
    · cases h
    split at h
    · cases h
      rfl
    split at h
    · cases h
      rfl
    split at h
    · cases h
    · cases h
      rfl

theorem readsEmpty_iff {members : List EnumMember} :
    ReadsEmpty members ↔ IsFirstFault members (.malformed "") := by
  constructor
  · rintro ⟨before, m, after, hsplit, hbefore, hvalue⟩
    exact ⟨before, m, after, "", hsplit, hbefore, hvalue, readInteger_empty⟩
  · rintro ⟨before, m, after, text, hsplit, hbefore, hvalue, hread⟩
    rw [← eq_of_readInteger_malformed hread] at hvalue
    exact ⟨before, m, after, hsplit, hbefore, hvalue⟩

/-- Without empty values, numbering does not fail on one. -/
theorem numberFrom_withoutEmpty_ne (next : Int) (ms : List EnumMember) :
    numberFrom next (ms.map EnumMember.withoutEmpty) ≠ .error (.malformed "") := by
  rw [ne_eq, numberFrom_eq_error, ← readsEmpty_iff]
  rintro ⟨before, m, after, hsplit, _, hvalue⟩
  have hm : m ∈ ms.map EnumMember.withoutEmpty := by simp [hsplit]
  obtain ⟨m, _, rfl⟩ := List.mem_map.mp hm
  exact (given_eq_some.mp hvalue).2 rfl

/-- Numbering that does not fail on an empty value has not read one. -/
theorem numberFrom_withoutEmpty {next : Int} {ms : List EnumMember}
    (h : numberFrom next ms ≠ .error (.malformed "")) :
    numberFrom next (ms.map EnumMember.withoutEmpty) = numberFrom next ms := by
  induction ms generalizing next with
  | nil => rfl
  | cons m ms ih =>
    have hvalue : m.value ≠ some "" := by
      intro hempty
      apply h
      rw [numberFrom_cons_eq_error, EnumMember.number_of_written hempty]
      exact .inl readInteger_empty
    rw [List.map_cons, EnumMember.withoutEmpty_eq_self hvalue, numberFrom_cons, numberFrom_cons]
    cases hnumber : m.number next with
    | error fault => rfl
    | ok value =>
      have hrest : numberFrom (value + 1) ms ≠ .error (.malformed "") := fun hrest =>
        h (numberFrom_cons_eq_error.mpr (.inr ⟨value, hnumber, hrest⟩))
      change (do return value :: (← numberFrom (value + 1) (ms.map EnumMember.withoutEmpty))) =
        do return value :: (← numberFrom (value + 1) ms)
      rw [ih hrest]

theorem DiscreteEnum.resolvedValues_withoutEmpty_iff (e : DiscreteEnum) :
    e.withoutEmpty.resolvedValues = e.resolvedValues ↔ ¬ ReadsEmpty e.members := by
  rw [resolvedValues, resolvedValues, withoutEmpty, readsEmpty_iff, ← numberFrom_eq_error]
  constructor
  · intro hsame
    rw [← hsame]
    exact numberFrom_withoutEmpty_ne 0 e.members
  · exact numberFrom_withoutEmpty

def Element.withoutEmpty (x : Element) : Element := { x with value := given x.value }

def Enumeration.withoutEmpty (e : Enumeration) : Enumeration :=
  { e with elements := e.elements.map Element.withoutEmpty }

def Param.withoutEmpty (p : Param) : Param :=
  { p with
    array := given p.array, mandatory := given p.mandatory, defvalue := given p.defvalue,
    minvalue := given p.minvalue, maxvalue := given p.maxvalue, minlength := given p.minlength,
    maxlength := given p.maxlength }

def Struct.withoutEmpty (s : Struct) : Struct :=
  { s with params := s.params.map Param.withoutEmpty }

def Function.withoutEmpty (f : Function) : Function :=
  { f with params := f.params.map Param.withoutEmpty }

def Interface.withoutEmpty (i : Interface) : Interface :=
  { i with
    enums := i.enums.map Enumeration.withoutEmpty, structs := i.structs.map Struct.withoutEmpty,
    functions := i.functions.map Function.withoutEmpty }

/-- A model in which the values of elements and the attributes of parameters are absent where they
were empty. -/
def Schema.withoutEmpty (s : Schema) : Schema :=
  { s with interfaces := s.interfaces.map Interface.withoutEmpty }

theorem Param.property_withoutEmpty (p : Param) : p.withoutEmpty.property = p.property := by
  have harray : p.withoutEmpty.isArray = p.isArray := given_beq p.array (by decide)
  have hoptional : p.withoutEmpty.isOptional = p.isOptional := given_beq p.mandatory (by decide)
  have htype : p.withoutEmpty.typeHint = p.typeHint := by
    simp only [typeHint, harray]
    rfl
  have hconstraints : p.withoutEmpty.constraints = p.constraints := by
    simp only [constraints, List.filterMap_cons, withoutEmpty, given_given]
  simp only [property, constraintText, htype, hoptional, hconstraints]
  rfl

theorem Struct.record_withoutEmpty (s : Struct) : s.withoutEmpty.record = s.record := by
  simp [record, withoutEmpty, Function.comp_def, Param.property_withoutEmpty]

theorem Function.record_withoutEmpty (f : Function) : f.withoutEmpty.record = f.record := by
  simp [record, recordName, withoutEmpty, Function.comp_def, Param.property_withoutEmpty]

theorem Enumeration.shape_withoutEmpty (e : Enumeration) : e.withoutEmpty.shape = e.shape := by
  simp [shape, withoutEmpty, Element.withoutEmpty, Function.comp_def, given_given]

theorem Enumeration.discreteEnum_withoutEmpty (e : Enumeration) :
    e.withoutEmpty.discreteEnum = e.discreteEnum.withoutEmpty := by
  simp [discreteEnum, withoutEmpty, Element.withoutEmpty, DiscreteEnum.withoutEmpty,
    EnumMember.withoutEmpty, Function.comp_def]

theorem Enumeration.declaration_withoutEmpty (e : Enumeration) :
    e.withoutEmpty.declaration = e.declaration.withoutEmpty := by
  rw [declaration, declaration, shape_withoutEmpty]
  cases e.shape with
  | discrete => simp only [discreteEnum_withoutEmpty, Declaration.withoutEmpty]
  | literalUnion =>
    simp [literalUnion, withoutEmpty, Element.withoutEmpty, Declaration.withoutEmpty,
      Function.comp_def]

theorem Interface.namespace_withoutEmpty (i : Interface) :
    i.withoutEmpty.namespace = i.namespace.withoutEmpty := by
  rw [Interface.namespace, Interface.namespace, Declaration.withoutEmpty, withoutEmptyAll_eq_map]
  simp [Interface.body, Interface.withoutEmpty, Function.comp_def, Declaration.withoutEmpty,
    Enumeration.declaration_withoutEmpty, Struct.record_withoutEmpty, Function.record_withoutEmpty]

theorem Interface.registrations_withoutEmpty (i : Interface) :
    i.withoutEmpty.registrations = i.registrations := by
  simp only [registrations, withoutEmpty, List.map_map]
  rfl

/-- Of all texts of a model, only values of members make a difference. -/
theorem Schema.declarations_withoutEmpty (s : Schema) :
    s.withoutEmpty.declarations = withoutEmptyAll s.declarations := by
  simp [declarations, Writer.writeAll_eq, withoutEmptyAll_eq_map, Writer.ofSchema, withoutEmpty,
    Interface.namespace_withoutEmpty, Declaration.withoutEmpty, List.flatMap_map,
    Interface.registrations_withoutEmpty, Function.comp_def]

/-- An enumeration with an element whose value is empty and an element whose value is not. -/
def Enumeration.IsMixed (e : Enumeration) : Prop :=
  (∃ x ∈ e.elements, x.value = some "") ∧ ∃ x ∈ e.elements, ∃ text ≠ "", x.value = some text

theorem Enumeration.shape_eq_discrete (e : Enumeration) :
    e.shape = .discrete ↔ ∃ x ∈ e.elements, ∃ text ≠ "", x.value = some text := by
  rw [← shape_withoutEmpty, shape_eq_discrete_iff]
  · simp [withoutEmpty, Element.withoutEmpty, Option.ne_none_iff_exists', given_eq_some, and_comm]
  · simp [withoutEmpty, Element.withoutEmpty, given_eq_some]

/-- Empty values are declared where another value makes the enumeration discrete. -/
theorem Enumeration.emptyValues_eq_zero (e : Enumeration) :
    e.declaration.emptyValues = 0 ↔ ¬ e.IsMixed := by
  rw [IsMixed, ← shape_eq_discrete, declaration]
  cases e.shape with
  | discrete => simp [Declaration.emptyValues, DiscreteEnum.emptyValues, discreteEnum]
  | literalUnion => simp [Declaration.emptyValues]

theorem Interface.emptyValues_eq_zero (i : Interface) :
    i.namespace.emptyValues = 0 ↔ ∀ e ∈ i.enums, ¬ e.IsMixed := by
  rw [Interface.namespace, Declaration.emptyValues, emptyValuesAll_eq_zero, Interface.body]
  simp only [List.forall_mem_append, List.forall_mem_map, Enumeration.emptyValues_eq_zero,
    Declaration.emptyValues_record, implies_true, and_true]

theorem Schema.emptyValues_eq_zero (s : Schema) :
    emptyValuesAll s.declarations = 0 ↔ ∀ i ∈ s.interfaces, ∀ e ∈ i.enums, ¬ e.IsMixed := by
  rw [emptyValuesAll_eq_zero, declarations_eq, reference]
  simp only [List.forall_mem_append, List.forall_mem_map, Interface.emptyValues_eq_zero,
    Declaration.emptyValues_record, implies_true, and_true]

/-- To take the empty optional texts of a model for absent ones takes the empty values from the
members of its declarations and nothing else. The source stays the same if and only if no
enumeration is mixed. Every enumeration keeps its shape, and the numbers of its members stay the
same unless numbering gets to an empty value. -/
theorem Schema.compile_withoutEmpty_iff (s : Schema) :
    s.withoutEmpty.declarations = withoutEmptyAll s.declarations ∧
    (∀ generator, s.withoutEmpty.compile generator = s.compile generator ↔
      ∀ i ∈ s.interfaces, ∀ e ∈ i.enums, ¬ e.IsMixed) ∧
    ∀ e : Enumeration, e.withoutEmpty.shape = e.shape ∧
      (e.withoutEmpty.discreteEnum.resolvedValues = e.discreteEnum.resolvedValues ↔
        ¬ ReadsEmpty e.discreteEnum.members) := by
  refine ⟨s.declarations_withoutEmpty, ?_, ?_⟩
  · intro generator
    rw [compile, compile, declarations_withoutEmpty, sourceText_withoutEmpty_iff,
      emptyValues_eq_zero]
  · intro e
    rw [e.discreteEnum_withoutEmpty]
    exact ⟨e.shape_withoutEmpty, e.discreteEnum.resolvedValues_withoutEmpty_iff⟩

/-- An enumeration with an empty value and one that is not. -/
def mixedEnumeration : Enumeration := ⟨"E", [⟨"X", some "", []⟩, ⟨"Y", some "1", []⟩], []⟩

/-- Beside a value that is not empty, an empty one is neither printed nor numbered as absent. -/
theorem empty_value_not_absent :
    (¬ ∀ (s : Schema) generator, s.withoutEmpty.compile generator = s.compile generator) ∧
    ¬ ∀ e : Enumeration, e.shape = .discrete →
      e.withoutEmpty.discreteEnum.resolvedValues = e.discreteEnum.resolvedValues := by
  constructor
  · intro h
    have hsame := h ⟨[⟨"A", [mixedEnumeration], [], [], []⟩], none, none⟩ "hmi-api-typegen"
    exact absurd hsame (by decide +kernel)
  · intro h
    have hsame := congrArg Except.toOption (h mixedEnumeration (by decide))
    exact absurd hsame (by decide +kernel)

end DeclGen
