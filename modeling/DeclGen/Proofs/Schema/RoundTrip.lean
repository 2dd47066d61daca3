import DeclGen.Schema.Load
import DeclGen.Schema.Markup

/-!
Loading what was written out. An attribute that is empty is loaded as if it were absent, so no text
of a model that is to survive may be empty, a description apart. A model whose texts are filled in
is loaded from its tree as it is: every part finds its own elements among the children of its tree,
in the order of the model, and every field finds its own attribute.
-/

namespace DeclGen

open Xml

/-- Every required text is given, and no optional one is given empty. -/
def Element.IsFilled (e : Element) : Prop := e.name ≠ "" ∧ e.value ≠ some ""

instance (e : Element) : Decidable e.IsFilled := inferInstanceAs (Decidable (_ ∧ _))

def Enumeration.IsFilled (e : Enumeration) : Prop :=
  e.name ≠ "" ∧ ∀ element ∈ e.elements, element.IsFilled

instance (e : Enumeration) : Decidable e.IsFilled := inferInstanceAs (Decidable (_ ∧ _))

/-- The fields of a parameter that may be absent, under their names in a document. -/
def Param.optionalFields (p : Param) : List (String × Option String) :=
  [("array", p.array), ("mandatory", p.mandatory), ("defvalue", p.defvalue),
    ("minvalue", p.minvalue), ("maxvalue", p.maxvalue), ("minlength", p.minlength),
    ("maxlength", p.maxlength)]

def Param.IsFilled (p : Param) : Prop :=
  p.name ≠ "" ∧ p.type ≠ "" ∧ ∀ field ∈ p.optionalFields, field.2 ≠ some ""

instance (p : Param) : Decidable p.IsFilled := inferInstanceAs (Decidable (_ ∧ _ ∧ _))

def Struct.IsFilled (s : Struct) : Prop := s.name ≠ "" ∧ ∀ param ∈ s.params, param.IsFilled

instance (s : Struct) : Decidable s.IsFilled := inferInstanceAs (Decidable (_ ∧ _))

def Function.IsFilled (f : Function) : Prop :=
  f.name ≠ "" ∧ f.functionId ≠ some "" ∧ ∀ param ∈ f.params, param.IsFilled

instance (f : Function) : Decidable f.IsFilled := inferInstanceAs (Decidable (_ ∧ _ ∧ _))

def Interface.IsFilled (i : Interface) : Prop :=
  i.name ≠ "" ∧ (∀ e ∈ i.enums, e.IsFilled) ∧ (∀ s ∈ i.structs, s.IsFilled) ∧
    ∀ f ∈ i.functions, f.IsFilled

instance (i : Interface) : Decidable i.IsFilled := inferInstanceAs (Decidable (_ ∧ _ ∧ _ ∧ _))

def Schema.IsFilled (s : Schema) : Prop :=
  s.name ≠ some "" ∧ s.version ≠ some "" ∧ ∀ i ∈ s.interfaces, i.IsFilled

instance (s : Schema) : Decidable s.IsFilled := inferInstanceAs (Decidable (_ ∧ _ ∧ _))

namespace Markup

/-- Among fields with different names each name finds its own value. -/
theorem lookup_fields {named : List (String × Option String)} {name : String}
    {value : Option String} (hd : (named.map (·.1)).Nodup) (hmem : (name, value) ∈ named) :
    (fields named).lookup name = value := by
  induction named with
  | nil => exact absurd hmem List.not_mem_nil
  | cons field rest ih =>
    obtain ⟨first, text⟩ := field
    rw [List.map_cons, List.nodup_cons] at hd
    have habsent : ∀ text, (first, text) ∉ rest := fun text h =>
      hd.1 (List.mem_map.mpr ⟨_, h, rfl⟩)
    rcases List.mem_cons.mp hmem with hfirst | hrest
    · cases hfirst
      cases value with
      | some text => simp [fields]
      | none =>
        -- A field that is not given leaves no attribute, and no later one has its name.
        change (fields rest).lookup name = none
        rw [List.lookup_eq_none_iff]
        intro written hwritten
        obtain ⟨⟨other, text⟩, hother, hgiven⟩ := List.mem_filterMap.mp hwritten
        obtain ⟨given, rfl, rfl⟩ := Option.map_eq_some_iff.mp hgiven
        rw [bne_iff_ne]
        rintro rfl
        exact habsent _ hother
    · have hne : name ≠ first := by
        rintro rfl
        exact habsent _ hrest
      cases text with
      | none => exact ih hd.2 hrest
      | some text =>
        change List.lookup name ((first, text) :: fields rest) = value
        rw [List.lookup_cons, beq_false_of_ne hne]
        exact ih hd.2 hrest

section Attributes

variable {named : List (String × Option String)} {name : String} (tag : String)
  (children : List Tree)

theorem optional_fields {value : Option String} (hd : (named.map (·.1)).Nodup)
    (hmem : (name, value) ∈ named) (hfilled : value ≠ some "") :
    Load.optional (.element tag (fields named) children) name = value := by
  rw [Load.optional, Tree.attribute?, lookup_fields hd hmem]
  cases value with
  | none => rfl
  | some text =>
    have htext : text ≠ "" := fun h => hfilled (congrArg some h)
    simp [htext]

theorem required_fields {text : String} (hd : (named.map (·.1)).Nodup)
    (hmem : (name, some text) ∈ named) (hfilled : text ≠ "") :
    Load.required (.element tag (fields named) children) name = .ok text := by
  rw [Load.required, optional_fields tag children hd hmem fun h => hfilled (Option.some.inj h)]

/-- The name of a part that has no other attribute. -/
theorem required_name {text : String} (hfilled : text ≠ "") :
    Load.required (.element tag [("name", text)] children) "name" = .ok text :=
  have hone : [("name", text)] = fields [("name", some text)] := rfl
  hone ▸ required_fields tag children (by simp) (by simp) hfilled

end Attributes

section Children

variable {α : Type} {write : α → Tree} {tag other : String}

/-- The elements with the tag of what was written are all that was written. -/
theorem filter_tag_map (h : ∀ x, (write x).tag? = some tag) (xs : List α) :
    (xs.map write).filter (·.tag? == some tag) = xs.map write := by
  rw [List.filter_eq_self]
  intro t ht
  obtain ⟨x, _, rfl⟩ := List.mem_map.mp ht
  rw [h, beq_self_eq_true]

theorem filter_tag_map_of_ne (h : ∀ x, (write x).tag? = some other) (hne : other ≠ tag)
    (xs : List α) : (xs.map write).filter (·.tag? == some tag) = [] := by
  rw [List.filter_eq_nil_iff]
  intro t ht
  obtain ⟨x, _, rfl⟩ := List.mem_map.mp ht
  simpa [h] using hne

/-- What is read from every written part is the part, so all parts are read in order. -/
theorem mapM_map {read : Tree → Except SchemaError α} {xs : List α}
    (h : ∀ x ∈ xs, read (write x) = .ok x) : (xs.map write).mapM read = .ok xs := by
  induction xs with
  | nil => rfl
  | cons x xs ih =>
    rw [List.map_cons, List.mapM_cons, h x List.mem_cons_self,
      ih fun y hy => h y (List.mem_cons_of_mem _ hy)]
    rfl

end Children

theorem tag?_element (e : Element) : (element e).tag? = some "element" := rfl

theorem tag?_enumeration (e : Enumeration) : (enumeration e).tag? = some "enum" := rfl

theorem tag?_param (p : Param) : (param p).tag? = some "param" := rfl

theorem tag?_struct (s : Struct) : (struct s).tag? = some "struct" := rfl

theorem tag?_function (f : Function) : (function f).tag? = some "function" := rfl

theorem tag?_interface (i : Interface) : (interface i).tag? = some "interface" := rfl

theorem filter_tag_descriptions {tag : String} (hne : "description" ≠ tag) (lines : List String) :
    (descriptions lines).filter (·.tag? == some tag) = [] :=
  filter_tag_map_of_ne (fun _ => rfl) hne lines

/-- Descriptions behind other children are loaded line by line. -/
theorem load_descriptions {parts : List Tree} (tag : String) (attributes : List (String × String))
    (lines : List String) (h : parts.filter (·.tag? == some "description") = []) :
    Load.descriptions (.element tag attributes (parts ++ descriptions lines)) = lines := by
  have hlines : (descriptions lines).filter (·.tag? == some "description") = descriptions lines :=
    filter_tag_map (fun _ => rfl) lines
  rw [Load.descriptions, Tree.childrenWith, Tree.children, List.filter_append, h, hlines,
    List.nil_append, descriptions, List.map_map]
  exact List.map_id'' (fun line => by simp [Tree.textContent, Tree.textContents]) lines

/-- Parts of one kind before the descriptions are found by their tag. -/
theorem childrenWith_parts {α : Type} {write : α → Tree} {tag : String} (owner : String)
    (attributes : List (String × String)) (h : ∀ x, (write x).tag? = some tag)
    (hne : "description" ≠ tag) (xs : List α) (lines : List String) :
    (Tree.element owner attributes (xs.map write ++ descriptions lines)).childrenWith tag =
      xs.map write := by
  rw [Tree.childrenWith, Tree.children, List.filter_append, filter_tag_map h,
    filter_tag_descriptions hne, List.append_nil]

theorem load_descriptions_only (tag : String) (attributes : List (String × String))
    (lines : List String) :
    Load.descriptions (.element tag attributes (descriptions lines)) = lines :=
  load_descriptions tag attributes lines (rfl : List.filter _ [] = [])

theorem load_element {e : Element} (h : e.IsFilled) : Load.element (element e) = .ok e := by
  have hname : Load.required (element e) "name" = .ok e.name :=
    required_fields _ _ (by simp) (by simp) h.1
  have hvalue : Load.optional (element e) "value" = e.value :=
    optional_fields _ _ (by simp) (by simp) h.2
  have hlines : Load.descriptions (element e) = e.description :=
    load_descriptions_only _ _ _
  rw [Load.element, hname, hvalue, hlines]
  rfl

theorem load_enumeration {e : Enumeration} (h : e.IsFilled) :
    Load.enumeration (enumeration e) = .ok e := by
  have hname : Load.required (enumeration e) "name" = .ok e.name := required_name _ _ h.1
  have helements : (enumeration e).childrenWith "element" = e.elements.map element :=
    childrenWith_parts _ _ tag?_element (by decide) _ _
  have hlines : Load.descriptions (enumeration e) = e.description :=
    load_descriptions _ _ _ (filter_tag_map_of_ne tag?_element (by decide) _)
  rw [Load.enumeration, hname, helements, hlines, mapM_map fun x hx => load_element (h.2 x hx)]
  rfl

theorem optional_param {p : Param} (h : p.IsFilled) {name : String} {value : Option String}
    (hmem : (name, value) ∈ p.optionalFields) : Load.optional (param p) name = value :=
  optional_fields _ _ (by simp)
    (List.mem_append_right [("name", some p.name), ("type", some p.type)] hmem) (h.2.2 _ hmem)

theorem load_param {p : Param} (h : p.IsFilled) : Load.param (param p) = .ok p := by
  have hname : Load.required (param p) "name" = .ok p.name :=
    required_fields _ _ (by simp) (by simp) h.1
  have htype : Load.required (param p) "type" = .ok p.type :=
    required_fields _ _ (by simp) (by simp) h.2.1
  have hlines : Load.descriptions (param p) = p.description :=
    load_descriptions_only _ _ _
  have hoptional : ∀ field ∈ p.optionalFields, Load.optional (param p) field.1 = field.2 :=
    fun field hmem => optional_param h hmem
  simp only [Param.optionalFields, List.forall_mem_cons] at hoptional
  obtain ⟨harray, hmandatory, hdefault, hminvalue, hmaxvalue, hminlength, hmaxlength, _⟩ :=
    hoptional
  rw [Load.param, hname, htype, hlines, harray, hmandatory, hdefault, hminvalue, hmaxvalue,
    hminlength, hmaxlength]
  rfl

theorem load_struct {s : Struct} (h : s.IsFilled) : Load.struct (struct s) = .ok s := by
  have hname : Load.required (struct s) "name" = .ok s.name := required_name _ _ h.1
  have hparams : (struct s).childrenWith "param" = s.params.map param :=
    childrenWith_parts _ _ tag?_param (by decide) _ _
  have hlines : Load.descriptions (struct s) = s.description :=
    load_descriptions _ _ _ (filter_tag_map_of_ne tag?_param (by decide) _)
  rw [Load.struct, hname, hparams, hlines, mapM_map fun x hx => load_param (h.2 x hx)]
  rfl

theorem ofWord?_word (kind : MessageKind) : MessageKind.ofWord? kind.word = some kind := by
  cases kind <;> decide

theorem word_ne_empty (kind : MessageKind) : kind.word ≠ "" := by
  cases kind <;> decide

theorem load_function {f : Function} (h : f.IsFilled) : Load.function (function f) = .ok f := by
  obtain ⟨hname, hid, hfilled⟩ := h
  have hname' : Load.required (function f) "name" = .ok f.name :=
    required_fields _ _ (by simp) (by simp) hname
  have hword : Load.required (function f) "messagetype" = .ok f.kind.word :=
    required_fields _ _ (by simp) (by simp) (word_ne_empty f.kind)
  have hkind : Load.messageKind f.name f.kind.word = .ok f.kind := by
    rw [Load.messageKind, ofWord?_word]
  have hid' : Load.optional (function f) "functionID" = f.functionId :=
    optional_fields _ _ (by simp) (by simp) hid
  have hparams : (function f).childrenWith "param" = f.params.map param :=
    childrenWith_parts _ _ tag?_param (by decide) _ _
  have hlines : Load.descriptions (function f) = f.description :=
    load_descriptions _ _ _ (filter_tag_map_of_ne tag?_param (by decide) _)
  rw [Load.function, hname', hword, hparams, hid', hlines,
    mapM_map fun x hx => load_param (hfilled x hx)]
  simp only [Bind.bind, Except.bind, hkind]
  rfl

/-- The children of an interface stand in three groups, and each is found by its tag. -/
theorem load_interface {i : Interface} (h : i.IsFilled) :
    Load.interface (interface i) = .ok i := by
  obtain ⟨hname, henums, hstructs, hfunctions⟩ := h
  have hname' : Load.required (interface i) "name" = .ok i.name := required_name _ _ hname
  have hchildren : ∀ tag, (interface i).childrenWith tag =
      (i.enums.map enumeration).filter (·.tag? == some tag) ++
      (i.structs.map struct).filter (·.tag? == some tag) ++
      (i.functions.map function).filter (·.tag? == some tag) ++
      (descriptions i.description).filter (·.tag? == some tag) := by
    intro tag
    simp only [Tree.childrenWith, interface, Tree.children, List.filter_append]
  have henums' : (interface i).childrenWith "enum" = i.enums.map enumeration := by
    rw [hchildren, filter_tag_map tag?_enumeration, filter_tag_map_of_ne tag?_struct (by decide),
      filter_tag_map_of_ne tag?_function (by decide), filter_tag_descriptions (by decide)]
    simp only [List.append_nil]
  have hstructs' : (interface i).childrenWith "struct" = i.structs.map struct := by
    rw [hchildren, filter_tag_map tag?_struct, filter_tag_map_of_ne tag?_enumeration (by decide),
      filter_tag_map_of_ne tag?_function (by decide), filter_tag_descriptions (by decide)]
    simp only [List.append_nil, List.nil_append]
  have hfunctions' : (interface i).childrenWith "function" = i.functions.map function := by
    rw [hchildren, filter_tag_map tag?_function, filter_tag_map_of_ne tag?_struct (by decide),
      filter_tag_map_of_ne tag?_enumeration (by decide), filter_tag_descriptions (by decide)]
    simp only [List.append_nil, List.nil_append]
  have hlines : Load.descriptions (interface i) = i.description := by
    refine load_descriptions _ _ _ ?_
    rw [List.filter_append, List.filter_append, filter_tag_map_of_ne tag?_struct (by decide),
      filter_tag_map_of_ne tag?_enumeration (by decide),
      filter_tag_map_of_ne tag?_function (by decide)]
    rfl
  rw [Load.interface, hname', henums', hstructs', hfunctions', hlines,
    mapM_map fun x hx => load_enumeration (henums x hx),
    mapM_map fun x hx => load_struct (hstructs x hx),
    mapM_map fun x hx => load_function (hfunctions x hx)]
  rfl

end Markup

namespace Schema

/-- Loading loses nothing: a model whose texts are filled in is what its tree is loaded to. -/
theorem ofTree_toTree (s : Schema) (h : s.IsFilled) : ofTree s.toTree = .ok s := by
  obtain ⟨hname, hversion, hinterfaces⟩ := h
  have hname' : Load.optional s.toTree "name" = s.name :=
    Markup.optional_fields _ _ (by simp) (by simp) hname
  have hversion' : Load.optional s.toTree "version" = s.version :=
    Markup.optional_fields _ _ (by simp) (by simp) hversion
  have hchildren : s.toTree.childrenWith "interface" = s.interfaces.map Markup.interface :=
    Markup.filter_tag_map Markup.tag?_interface s.interfaces
  have htag : s.toTree.tag? = some "interfaces" := rfl
  rw [ofTree, if_pos htag, hname', hversion', hchildren,
    Markup.mapM_map fun i hi => Markup.load_interface (hinterfaces i hi)]
  rfl

/-- An interface with every kind of part, whose texts hold markup, blanks and an empty line. -/
def mediaPlayer : Schema :=
  let volume : Param := {
    name := "volume", type := "Integer", array := none, mandatory := some "false"
    defvalue := some " ", minvalue := some "0", maxvalue := some "<100>", minlength := none
    maxlength := none, description := ["", "How loud?\n"] }
  { name := some "Media & more", version := none
    interfaces := [{
      name := "Player"
      enums := [⟨"State", [⟨"ON", some "1", []⟩, ⟨"OFF", none, ["Not playing."]⟩], []⟩]
      structs := [⟨"Track", [], ["A \"title\"."]⟩]
      functions := [⟨"Play", .response, [volume, volume], some "7", []⟩,
        ⟨"Stop", .notification, [], none, ["Stops."]⟩]
      description := ["Plays."] }] }

/-- The media player is loaded from its tree as it is. -/
theorem mediaPlayer_survives :
    mediaPlayer.IsFilled ∧ ofTree mediaPlayer.toTree = .ok mediaPlayer :=
  have hfilled : mediaPlayer.IsFilled := by decide
  ⟨hfilled, ofTree_toTree mediaPlayer hfilled⟩

end Schema

end DeclGen
