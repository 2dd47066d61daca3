import DeclGen.Proofs.Declaration.Code
import DeclGen.Proofs.Declaration.Layout
import DeclGen.Proofs.Schema.Generation

/-!
Documentation and constraints of a model reach the comments of its source and nothing else: models
that differ in them only have sources with the same code.
-/

namespace DeclGen

open Text

def Element.undocumented (x : Element) : Element := { x with description := [] }

def Enumeration.undocumented (e : Enumeration) : Enumeration :=
  ⟨e.name, e.elements.map Element.undocumented, []⟩

/-- A parameter without its description and its constraints. -/
def Param.undocumented (p : Param) : Param :=
  { p with
    defvalue := none, minvalue := none, maxvalue := none, minlength := none, maxlength := none,
    description := [] }

def Struct.undocumented (s : Struct) : Struct := ⟨s.name, s.params.map Param.undocumented, []⟩

def Function.undocumented (f : Function) : Function :=
  { f with params := f.params.map Param.undocumented, description := [] }

def Interface.undocumented (i : Interface) : Interface :=
  ⟨i.name, i.enums.map Enumeration.undocumented, i.structs.map Struct.undocumented,
    i.functions.map Function.undocumented, []⟩

/-- A model without its descriptions and without the constraints of its parameters. -/
def Schema.undocumented (s : Schema) : Schema :=
  { s with interfaces := s.interfaces.map Interface.undocumented }

theorem map_property_undocumented (ps : List Param) :
    (ps.map Param.property).map Property.undocumented =
      (ps.map Param.undocumented).map Param.property := by
  rw [List.map_map, List.map_map]
  rfl

theorem Enumeration.shape_undocumented (e : Enumeration) : e.undocumented.shape = e.shape := by
  simp [shape, undocumented, List.any_map, Function.comp_def, Element.undocumented]

theorem Enumeration.declaration_undocumented (e : Enumeration) :
    e.declaration.undocumented = e.undocumented.declaration := by
  rw [declaration, declaration, shape_undocumented]
  cases e.shape with
  | discrete =>
    simp [Declaration.undocumented, discreteEnum, undocumented, Element.undocumented,
      EnumMember.undocumented]
  | literalUnion =>
    simp [Declaration.undocumented, literalUnion, undocumented, Element.undocumented,
      LiteralVariant.undocumented]

theorem Struct.record_undocumented (s : Struct) :
    (Declaration.record s.record).undocumented = .record s.undocumented.record := by
  rw [Declaration.undocumented, record, map_property_undocumented]
  rfl

theorem Function.record_undocumented (f : Function) :
    (Declaration.record f.record).undocumented = .record f.undocumented.record := by
  rw [Declaration.undocumented, record, map_property_undocumented]
  rfl

theorem Interface.namespace_undocumented (i : Interface) :
    i.namespace.undocumented = i.undocumented.namespace := by
  rw [Interface.namespace, Interface.namespace, Declaration.undocumented, undocumentedAll_eq_map,
    Interface.body, Interface.body]
  simp only [List.map_append, List.map_map, Function.comp_def, Interface.undocumented,
    Enumeration.declaration_undocumented, Struct.record_undocumented, Function.record_undocumented]

/-- Lookup records have no comments to begin with. -/
theorem Registry.lookupRecord_undocumented (r : Registry) (k : MessageKind) :
    (Declaration.record (r.lookupRecord k)).undocumented = .record (r.lookupRecord k) := by
  simp [Declaration.undocumented, lookupRecord, RegistryEntry.property, Property.undocumented]

theorem Interface.registrations_undocumented (i : Interface) :
    i.undocumented.registrations = i.registrations := by
  rw [registrations, undocumented, List.map_map]
  rfl

theorem Schema.declarations_undocumented (s : Schema) :
    undocumentedAll s.declarations = s.undocumented.declarations := by
  simp [declarations, Writer.writeAll_eq, undocumentedAll_eq_map, Writer.ofSchema, undocumented,
    Interface.namespace_undocumented, Registry.lookupRecords, Registry.lookupRecord_undocumented,
    List.flatMap_map, Interface.registrations_undocumented, Function.comp_def]

def Enumeration.rawTexts (e : Enumeration) : List String :=
  e.name :: e.elements.filterMap (·.value)

def Struct.rawTexts (s : Struct) : List String := s.name :: s.params.map (·.type)

def Function.rawTexts (f : Function) : List String := f.name :: f.params.map (·.type)

def Interface.rawTexts (i : Interface) : List String :=
  i.name :: (i.enums.flatMap Enumeration.rawTexts ++ i.structs.flatMap Struct.rawTexts ++
    i.functions.flatMap Function.rawTexts)

/-- The names of interfaces, enumerations, structures and functions, the types of parameters, and
the values of elements. -/
def Schema.rawTexts (s : Schema) : List String := s.interfaces.flatMap Interface.rawTexts

theorem Param.plain_typeHint {p : Param} (h : Plain p.type) : Plain p.typeHint.name := by
  unfold typeHint
  split
  · next keyword hkeyword =>
    have hall : ∀ entry ∈ [("Boolean", "boolean"), ("Integer", "number"), ("Float", "number"),
        ("String", "string")], Plain entry.2 := by decide
    obtain ⟨before, after, hsplit, _⟩ := List.lookup_eq_some_iff.mp hkeyword
    rw [hsplit] at hall
    exact hall (p.type, keyword) (by simp)
  · exact h

theorem plain_properties {ps : List Param} (h : ∀ t ∈ ps.map (·.type), Plain t) :
    ∀ t ∈ (ps.map Param.property).map (·.typeHint.name), Plain t := by
  intro t ht
  rw [List.map_map] at ht
  obtain ⟨p, hp, rfl⟩ := List.mem_map.mp ht
  exact Param.plain_typeHint (h p.type (List.mem_map_of_mem hp))

theorem Enumeration.plain_declaration {e : Enumeration} (h : ∀ t ∈ e.rawTexts, Plain t) :
    ∀ t ∈ e.declaration.rawTexts, Plain t := by
  obtain ⟨hname, hvalues⟩ := List.forall_mem_cons.mp h
  unfold declaration
  cases e.shape with
  | discrete =>
    have hsame : e.discreteEnum.members.filterMap (·.value) = e.elements.filterMap (·.value) :=
      List.filterMap_map
    rw [Declaration.rawTexts, hsame]
    exact List.forall_mem_cons.mpr ⟨hname, hvalues⟩
  | literalUnion =>
    rw [Declaration.rawTexts]
    exact List.forall_mem_singleton.mpr hname

theorem Struct.plain_record {s : Struct} (h : ∀ t ∈ s.rawTexts, Plain t) :
    ∀ t ∈ (Declaration.record s.record).rawTexts, Plain t := by
  obtain ⟨hname, htypes⟩ := List.forall_mem_cons.mp h
  rw [Declaration.rawTexts]
  exact List.forall_mem_cons.mpr ⟨hname, plain_properties htypes⟩

theorem Function.plain_recordName {f : Function} (h : Plain f.name) : Plain f.recordName := by
  have hsuffix : Plain f.kind.suffix := by cases f.kind <;> decide
  exact h.append hsuffix

theorem Function.plain_record {f : Function} (h : ∀ t ∈ f.rawTexts, Plain t) :
    ∀ t ∈ (Declaration.record f.record).rawTexts, Plain t := by
  obtain ⟨hname, htypes⟩ := List.forall_mem_cons.mp h
  rw [Declaration.rawTexts]
  exact List.forall_mem_cons.mpr ⟨plain_recordName hname, plain_properties htypes⟩

theorem Interface.plain_namespace {i : Interface} (h : ∀ t ∈ i.rawTexts, Plain t) :
    ∀ t ∈ i.namespace.rawTexts, Plain t := by
  obtain ⟨hname, hparts⟩ := List.forall_mem_cons.mp h
  rw [Interface.namespace, Declaration.rawTexts, rawTextsAll_eq_flatMap]
  refine List.forall_mem_cons.mpr ⟨hname, ?_⟩
  simp only [List.forall_mem_append, List.forall_mem_flatMap] at hparts
  simp only [Interface.body, List.flatMap_append, List.flatMap_map, List.forall_mem_append,
    List.forall_mem_flatMap]
  exact ⟨⟨fun e he => e.plain_declaration (hparts.1.1 e he),
    fun s hs => s.plain_record (hparts.1.2 s hs)⟩, fun f hf => f.plain_record (hparts.2 f hf)⟩

/-- A model of plain texts becomes declarations of plain texts. -/
theorem Schema.plain_declarations {s : Schema} (h : ∀ t ∈ s.rawTexts, Plain t) :
    ∀ t ∈ rawTextsAll s.declarations, Plain t := by
  rw [rawTexts, List.forall_mem_flatMap] at h
  rw [rawTextsAll_eq_flatMap, declarations_eq, reference, List.flatMap_append]
  refine List.forall_mem_append.mpr ⟨?_, ?_⟩
  · rw [List.flatMap_map, List.forall_mem_flatMap]
    exact fun i hi => i.plain_namespace (h i hi)
  · rw [lookups, List.map_map, List.flatMap_map, List.forall_mem_flatMap]
    intro k _
    rw [Function.comp_apply, Declaration.rawTexts, lookup]
    have hlookup : Plain k.lookupName := by cases k <;> decide
    refine List.forall_mem_cons.mpr ⟨hlookup, ?_⟩
    rw [List.map_map]
    intro t ht
    obtain ⟨m, hm, rfl⟩ := List.mem_map.mp ht
    obtain ⟨hi, hf⟩ := mem_messages.mp (List.mem_filter.mp hm).1
    have hparts := h m.interface (List.mem_of_getElem? hi)
    have hname : Plain m.function.name := hparts _ (List.mem_cons_of_mem _ (List.mem_append_right _
      (List.mem_flatMap.mpr ⟨m.function, List.mem_of_getElem? hf, List.mem_cons_self⟩)))
    exact ((hparts _ List.mem_cons_self).append (by decide)).append
      (Function.plain_recordName hname)

section

variable {isSpace : Char → Bool}

/-- The code of a source is that of the model without documentation. -/
theorem Schema.bareCode_undocumented (hspace : isSpace ' ' = true) (hline : isSpace '\n' = true)
    {s : Schema} (h : ∀ t ∈ s.rawTexts, Plain t) :
    bareCode isSpace ("\n".intercalate (printedLines s.declarations)) =
      bareCode isSpace ("\n".intercalate (printedLines s.undocumented.declarations)) := by
  have hsame := sameLines_layoutAll hspace s.declarations (plain_declarations h)
  rw [declarations_undocumented] at hsame
  rw [printedLines_eq_layoutAll, printedLines_eq_layoutAll, bareCode_joined hline hsame.left,
    bareCode_joined hline hsame.right, hsame.code]

theorem Schema.rawTexts_undocumented (s : Schema) : s.undocumented.rawTexts = s.rawTexts := by
  have henum (e : Enumeration) : e.undocumented.rawTexts = e.rawTexts := by
    simp [Enumeration.rawTexts, Enumeration.undocumented, Element.undocumented, List.filterMap_map,
      Function.comp_def]
  have hstruct (t : Struct) : t.undocumented.rawTexts = t.rawTexts := by
    simp [Struct.rawTexts, Struct.undocumented, Param.undocumented]
  have hfunction (f : Function) : f.undocumented.rawTexts = f.rawTexts := by
    simp [Function.rawTexts, Function.undocumented, Param.undocumented]
  have hinterface (i : Interface) : i.undocumented.rawTexts = i.rawTexts := by
    simp [Interface.rawTexts, Interface.undocumented, List.flatMap_map, henum, hstruct, hfunction]
  simp [rawTexts, undocumented, List.flatMap_map, hinterface]

/-- Models that differ only in descriptions and in constraints of parameters have sources with the
same code, whatever counts as a blank besides the space and the line feed. -/
theorem Schema.code_eq_of_undocumented_eq (hspace : isSpace ' ' = true)
    (hline : isSpace '\n' = true) {s s' : Schema} (h : s.undocumented = s'.undocumented)
    (hraw : ∀ t ∈ s.rawTexts, ∀ c ∈ t.toList, c ≠ '\x22' ∧ c ≠ '/') :
    bareCode isSpace ("\n".intercalate (printedLines s.declarations)) =
      bareCode isSpace ("\n".intercalate (printedLines s'.declarations)) := by
  have hraw' : ∀ t ∈ s'.rawTexts, Plain t := by
    rw [← rawTexts_undocumented s', ← h, rawTexts_undocumented]
    exact hraw
  rw [bareCode_undocumented hspace hline hraw, bareCode_undocumented hspace hline hraw', h]

end

/-- A model whose comments try to end early, to open literals, and to look like code. -/
def hostileModel : Schema :=
  ⟨[⟨"UI", [⟨"Mode", [⟨"8\x22/*", some "0x1", ["*/ X = 9,", "/*"]⟩, ⟨"OFF", none, ["**/", "*"]⟩],
      ["*/ \x7d"]⟩], [], [⟨"Show", .request, [⟨"a/b", "Mode", some "true", none, some "*/\x22",
        none, some "1", some "/", none, ["\x22", "\n*/\n"]⟩], none, ["*"]⟩], ["*/*/"]⟩], none, none⟩

/-- The same model without a word of documentation. -/
def silentModel : Schema :=
  ⟨[⟨"UI", [⟨"Mode", [⟨"8\x22/*", some "0x1", []⟩, ⟨"OFF", none, []⟩], []⟩], [],
    [⟨"Show", .request, [⟨"a/b", "Mode", some "true", none, none, none, none, none, none, []⟩],
      none, []⟩], []⟩], none, none⟩

theorem Schema.code_eq_of_hostile_documentation :
    hostileModel.undocumented = silentModel.undocumented ∧
      (∀ t ∈ hostileModel.rawTexts, ∀ c ∈ t.toList, c ≠ '\x22' ∧ c ≠ '/') ∧
      bareCode Char.isWhitespace ("\n".intercalate (printedLines hostileModel.declarations)) =
        bareCode Char.isWhitespace ("\n".intercalate (printedLines silentModel.declarations)) := by
  have hsame : hostileModel.undocumented = silentModel.undocumented := rfl
  have hraw : ∀ t ∈ hostileModel.rawTexts, Plain t := by decide
  exact ⟨hsame, hraw, code_eq_of_undocumented_eq rfl rfl hsame hraw⟩

end DeclGen
