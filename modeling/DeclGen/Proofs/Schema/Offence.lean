import DeclGen.Proofs.Schema.Role
import DeclGen.Proofs.Schema.RoundTrip

/-!
What keeps a tree from being loaded. The elements that loading reaches are visited in a fixed order,
each before its parts; a tree is loaded if all of them are complete, and otherwise the first offence
on the way is reported.
-/

namespace DeclGen

open Xml

namespace Role

/-- How deep parts can lie below an element of a role. -/
def height : Role → Nat
  | .document => 4
  | .interface => 3
  | .enumeration | .struct | .function => 2
  | .element | .param => 1
  | .description => 0

theorem height_lt_of_mem_parts {role part : Role} (h : part ∈ role.parts) :
    part.height < role.height := by
  revert h
  cases role <;> cases part <;> decide

/-- All elements that are reached from an element of a role, in the order of loading: the element,
then for every role of its parts the children in that role with all that is reached from them. -/
def visited (role : Role) (t : Tree) : List (Role × Tree) :=
  (role, t) :: role.parts.attach.flatMap fun part =>
    (t.childrenWith part.val.tag).flatMap (visited part.val)
termination_by role.height
decreasing_by exact height_lt_of_mem_parts part.property

theorem visited_eq (role : Role) (t : Tree) :
    role.visited t = (role, t) :: role.parts.flatMap fun part =>
      (t.childrenWith part.tag).flatMap part.visited := by
  rw [visited]
  simp only [List.flatMap_subtype, List.unattach_attach]

end Role

/-- The text of an attribute, which is empty if there is none. -/
def Xml.Tree.attributeText (t : Tree) (key : String) : String := (t.attribute? key).getD ""

theorem Xml.Tree.tag?_of_mem_childrenWith {t child : Tree} {tag : String}
    (h : child ∈ t.childrenWith tag) : child.tag? = some tag :=
  beq_iff_eq.mp (List.mem_filter.mp h).2

/-- What an element must have in its role. -/
def Role.IsComplete : Role → Tree → Prop
  | .document, t => t.tag? = some "interfaces"
  | .interface, t | .enumeration, t | .element, t | .struct, t => t.attributeText "name" ≠ ""
  | .param, t => t.attributeText "name" ≠ "" ∧ t.attributeText "type" ≠ ""
  | .function, t => t.attributeText "name" ≠ "" ∧
      ∃ kind : MessageKind, t.attributeText "messagetype" = kind.word
  | .description, _ => True

/-- A way in which an element is not complete. -/
inductive Offence where
  | wrongRoot (root : Tree)
  | missing (node : Tree) (key : String)
  | unknownKind (function : Tree)
  deriving Repr

namespace Offence

/-- How an element is referred to: by its tag, and by its name if it has one. -/
def opening (node : Tree) : String :=
  let name := node.attributeText "name"
  "<" ++ node.tag?.getD "" ++ (if name = "" then "" else " name='" ++ name ++ "'") ++ ">"

def message : Offence → String
  | wrongRoot root => "Expected a <interfaces> root element, found <" ++ root.tag?.getD "" ++ ">."
  | missing node key =>
    opening node ++ " is missing the required '" ++ key ++ "' attribute."
  | unknownKind function => opening function ++ " has an unknown messagetype '" ++
      function.attributeText "messagetype" ++ "'."

/-- An attribute that an element must have, if it is absent or empty. -/
def absent (node : Tree) (key : String) : List Offence :=
  if node.attributeText key = "" then [missing node key] else []

/-- A message type that is given but stands for no kind. -/
def strange (function : Tree) : List Offence :=
  let word := function.attributeText "messagetype"
  if word ≠ "" ∧ MessageKind.ofWord? word = none then [unknownKind function] else []

end Offence

/-- The offences of an element in its role, its parts apart. -/
def Role.offences : Role → Tree → List Offence
  | .document, t => if t.tag? = some "interfaces" then [] else [.wrongRoot t]
  | .interface, t | .enumeration, t | .element, t | .struct, t => Offence.absent t "name"
  | .param, t => Offence.absent t "name" ++ Offence.absent t "type"
  | .function, t =>
    Offence.absent t "name" ++ (Offence.absent t "messagetype" ++ Offence.strange t)
  | .description, _ => []

/-- All offences in what is reached from an element, in the order of loading. -/
def Role.allOffences (role : Role) (t : Tree) : List Offence :=
  (role.visited t).flatMap fun v => v.1.offences v.2

theorem Role.allOffences_eq (role : Role) (t : Tree) :
    role.allOffences t = role.offences t ++
      role.parts.flatMap fun part => (t.childrenWith part.tag).flatMap part.allOffences := by
  rw [allOffences, visited_eq, List.flatMap_cons]
  simp only [List.flatMap_assoc]
  rfl

/-- A result is given if there is no offence, and otherwise the first offence is reported. -/
def Reports {α : Type} (result : Except SchemaError α) : List Offence → Prop
  | [] => ∃ value, result = .ok value
  | offence :: _ => ∃ e, result = .error e ∧ e.message = offence.message

section

variable {α β : Type} {result : Except SchemaError α} {offences offences' : List Offence}

theorem Reports.ok (value : α) : Reports (.ok value) [] := ⟨value, rfl⟩

/-- What comes later is looked at only if nothing is wrong before. -/
theorem Reports.bind {next : α → Except SchemaError β} (h : Reports result offences)
    (hnext : ∀ value, result = .ok value → Reports (next value) offences') :
    Reports (result >>= next) (offences ++ offences') := by
  cases offences with
  | nil =>
    obtain ⟨value, rfl⟩ := h
    exact hnext value rfl
  | cons offence rest =>
    obtain ⟨e, rfl, hmessage⟩ := h
    exact ⟨e, rfl, hmessage⟩

theorem Reports.bind_pure (h : Reports result offences) (f : α → β) :
    Reports (result >>= fun value => pure (f value)) offences := by
  rw [← List.append_nil offences]
  exact h.bind fun value _ => .ok (f value)

/-- The first offence among several elements is the first one of the first element that has any. -/
theorem Reports.mapM {load : Tree → Except SchemaError α} {offences : Tree → List Offence}
    {ts : List Tree} (h : ∀ t ∈ ts, Reports (load t) (offences t)) :
    Reports (ts.mapM load) (ts.flatMap offences) := by
  induction ts with
  | nil => exact .ok []
  | cons t ts ih =>
    obtain ⟨ht, hts⟩ := List.forall_mem_cons.mp h
    rw [List.mapM_cons, List.flatMap_cons]
    exact ht.bind fun value _ => (ih hts).bind_pure (value :: ·)

end

/-- An attribute counts as given if it has a text. -/
theorem optional_eq_ite (t : Tree) (key : String) :
    Load.optional t key =
      if t.attributeText key = "" then none else some (t.attributeText key) := by
  rw [Load.optional, Tree.attributeText]
  generalize t.attribute? key = given
  rcases given with _ | text
  · simp
  · by_cases h : text = "" <;> simp [h]

theorem required_of_empty {t : Tree} {key : String} (h : t.attributeText key = "") :
    Load.required t key =
      .error (.missingAttribute (t.tag?.getD "") (Load.optional t "name") key) := by
  have hoptional : Load.optional t key = none := by rw [optional_eq_ite, if_pos h]
  rw [Load.required, hoptional]

theorem required_of_nonempty {t : Tree} {key : String} (h : t.attributeText key ≠ "") :
    Load.required t key = .ok (t.attributeText key) := by
  have hoptional : Load.optional t key = some (t.attributeText key) := by
    rw [optional_eq_ite, if_neg h]
  rw [Load.required, hoptional]

theorem required_eq_ok {t : Tree} {key text : String} (h : Load.required t key = .ok text) :
    t.attributeText key = text ∧ text ≠ "" := by
  by_cases hkey : t.attributeText key = ""
  · rw [required_of_empty hkey] at h
    cases h
  · rw [required_of_nonempty hkey] at h
    cases h
    exact ⟨rfl, hkey⟩

theorem opening_of_unnamed {t : Tree} (h : t.attributeText "name" = "") :
    Offence.opening t = "<" ++ t.tag?.getD "" ++ ">" := by
  simp [Offence.opening, h]

theorem opening_of_named {t : Tree} (h : t.attributeText "name" ≠ "") :
    Offence.opening t =
      "<" ++ t.tag?.getD "" ++ " name='" ++ t.attributeText "name" ++ "'>" := by
  simp [Offence.opening, h, String.append_assoc]

theorem message_missingAttribute (t : Tree) (key : String) :
    (SchemaError.missingAttribute (t.tag?.getD "") (Load.optional t "name") key).message =
      (Offence.missing t key).message := by
  show _ = Offence.opening t ++ " is missing the required '" ++ key ++ "' attribute."
  rw [optional_eq_ite]
  by_cases hname : t.attributeText "name" = ""
  · rw [if_pos hname, opening_of_unnamed hname]
    rfl
  · rw [if_neg hname, opening_of_named hname]
    rfl

theorem reports_required (t : Tree) (key : String) :
    Reports (Load.required t key) (Offence.absent t key) := by
  by_cases hkey : t.attributeText key = ""
  · rw [required_of_empty hkey, Offence.absent, if_pos hkey]
    exact ⟨_, rfl, message_missingAttribute t key⟩
  · rw [required_of_nonempty hkey, Offence.absent, if_neg hkey]
    exact .ok _

theorem Role.allOffences_description (t : Tree) : Role.description.allOffences t = [] := by
  rw [allOffences_eq]
  rfl

/-- Descriptions are never wrong, so other parts decide. -/
theorem flatMap_descriptions (ts : List Tree) :
    ts.flatMap Role.description.allOffences = [] :=
  List.flatMap_eq_nil_iff.mpr fun t _ => Role.allOffences_description t

theorem Role.allOffences_of_leaf {role : Role} (h : role.parts = [.description]) (t : Tree) :
    role.allOffences t = role.offences t := by
  rw [allOffences_eq, h, List.flatMap_singleton, flatMap_descriptions, List.append_nil]

theorem Role.allOffences_of_group {role part : Role} (h : role.parts = [part, .description])
    (t : Tree) : role.allOffences t =
      role.offences t ++ (t.childrenWith part.tag).flatMap part.allOffences := by
  rw [allOffences_eq, h, List.flatMap_cons, List.flatMap_singleton, flatMap_descriptions,
    List.append_nil]

theorem reports_element (t : Tree) : Reports (Load.element t) (Role.element.allOffences t) := by
  rw [Role.allOffences_of_leaf rfl]
  exact (reports_required t "name").bind_pure _

theorem reports_param (t : Tree) : Reports (Load.param t) (Role.param.allOffences t) := by
  rw [Role.allOffences_of_leaf rfl]
  exact (reports_required t "name").bind fun name _ => (reports_required t "type").bind_pure _

theorem reports_enumeration (t : Tree) :
    Reports (Load.enumeration t) (Role.enumeration.allOffences t) := by
  rw [Role.allOffences_of_group rfl]
  exact (reports_required t "name").bind fun name _ =>
    (Reports.mapM fun x _ => reports_element x).bind_pure _

theorem reports_struct (t : Tree) : Reports (Load.struct t) (Role.struct.allOffences t) := by
  rw [Role.allOffences_of_group rfl]
  exact (reports_required t "name").bind fun name _ =>
    (Reports.mapM fun x _ => reports_param x).bind_pure _

/-- The name of a function is known by the time its message type is looked up. -/
theorem reports_messageKind {t : Tree} {name word : String} (htag : t.tag? = some "function")
    (hname : Load.required t "name" = .ok name)
    (hword : Load.required t "messagetype" = .ok word) :
    Reports (Load.messageKind name word) (Offence.strange t) := by
  obtain ⟨hname, hname'⟩ := required_eq_ok hname
  obtain ⟨hword, hword'⟩ := required_eq_ok hword
  rw [Load.messageKind, Offence.strange, hword]
  generalize MessageKind.ofWord? word = known
  rcases known with _ | kind
  · simp only [ne_eq, hword', not_false_eq_true, and_self, if_true]
    refine ⟨_, rfl, ?_⟩
    have hfront : "<function name='" = "<" ++ "function" ++ " name='" := by decide
    have hmiddle : "'> has an unknown messagetype '" = "'>" ++ " has an unknown messagetype '" := by
      decide
    show "<function name='" ++ name ++ "'> has an unknown messagetype '" ++ word ++ "'." =
      Offence.opening t ++ " has an unknown messagetype '" ++ t.attributeText "messagetype" ++ "'."
    rw [opening_of_named (hname ▸ hname'), htag, hname, hword, hfront, hmiddle, Option.getD_some]
    simp only [String.append_assoc]
  · simp only [reduceCtorEq, and_false, if_false]
    exact .ok kind

theorem reports_function {t : Tree} (htag : t.tag? = some "function") :
    Reports (Load.function t) (Role.function.allOffences t) := by
  rw [Role.allOffences_of_group rfl, Role.offences, List.append_assoc, List.append_assoc]
  refine (reports_required t "name").bind fun name hname => ?_
  refine (reports_required t "messagetype").bind fun word hword => ?_
  refine (reports_messageKind htag hname hword).bind fun kind _ => ?_
  exact (Reports.mapM fun x _ => reports_param x).bind_pure _

theorem reports_interface (t : Tree) :
    Reports (Load.interface t) (Role.interface.allOffences t) := by
  rw [Role.allOffences_eq]
  simp only [Role.parts, List.flatMap_cons, List.flatMap_nil, flatMap_descriptions,
    List.append_nil]
  refine (reports_required t "name").bind fun name _ => ?_
  refine (Reports.mapM fun x _ => reports_enumeration x).bind fun enums _ => ?_
  refine (Reports.mapM fun x _ => reports_struct x).bind fun structs _ => ?_
  refine Reports.bind_pure (Reports.mapM fun x hx => reports_function ?_) _
  exact Tree.tag?_of_mem_childrenWith hx

theorem reports_ofTree (t : Tree) : Reports (Schema.ofTree t) (Role.document.allOffences t) := by
  rw [Role.allOffences_eq, Schema.ofTree, Role.offences]
  by_cases htag : t.tag? = some "interfaces"
  · rw [if_pos htag, if_pos htag]
    simp only [Role.parts, List.flatMap_cons, List.flatMap_nil, List.append_nil, List.nil_append]
    exact (Reports.mapM fun x _ => reports_interface x).bind_pure _
  · rw [if_neg htag, if_neg htag]
    exact ⟨_, rfl, rfl⟩

theorem absent_eq_nil_iff (t : Tree) (key : String) :
    Offence.absent t key = [] ↔ t.attributeText key ≠ "" := by
  simp [Offence.absent]

theorem ofWord?_eq_none_iff (word : String) :
    MessageKind.ofWord? word = none ↔ ¬∃ kind : MessageKind, word = kind.word := by
  constructor
  · rintro h ⟨kind, rfl⟩
    rw [Markup.ofWord?_word] at h
    cases h
  · intro h
    rw [MessageKind.ofWord?, List.find?_eq_none]
    intro kind _ hword
    exact h ⟨kind, (beq_iff_eq.mp hword).symm⟩

theorem messagetype_offences_eq_nil_iff (t : Tree) :
    Offence.absent t "messagetype" ++ Offence.strange t = [] ↔
      ∃ kind : MessageKind, t.attributeText "messagetype" = kind.word := by
  rw [List.append_eq_nil_iff, absent_eq_nil_iff, Offence.strange]
  constructor
  · rintro ⟨hgiven, hknown⟩
    refine Classical.byContradiction fun hnone => ?_
    rw [if_pos ⟨hgiven, (ofWord?_eq_none_iff _).mpr hnone⟩] at hknown
    cases hknown
  · rintro ⟨kind, hkind⟩
    refine ⟨hkind ▸ Markup.word_ne_empty kind, if_neg ?_⟩
    rintro ⟨_, hnone⟩
    exact (ofWord?_eq_none_iff _).mp hnone ⟨kind, hkind⟩

theorem Role.offences_eq_nil_iff (role : Role) (t : Tree) :
    role.offences t = [] ↔ role.IsComplete t := by
  cases role with
  | document => simp [offences, IsComplete]
  | interface => exact absent_eq_nil_iff t "name"
  | enumeration => exact absent_eq_nil_iff t "name"
  | element => exact absent_eq_nil_iff t "name"
  | struct => exact absent_eq_nil_iff t "name"
  | function =>
    rw [offences, List.append_eq_nil_iff, absent_eq_nil_iff, messagetype_offences_eq_nil_iff,
      IsComplete]
  | param => rw [offences, List.append_eq_nil_iff, absent_eq_nil_iff, absent_eq_nil_iff, IsComplete]
  | description => exact iff_of_true rfl trivial

theorem Role.allOffences_eq_nil_iff (role : Role) (t : Tree) :
    role.allOffences t = [] ↔ ∀ v ∈ role.visited t, v.1.IsComplete v.2 := by
  rw [allOffences, List.flatMap_eq_nil_iff]
  exact forall₂_congr fun v _ => v.1.offences_eq_nil_iff v.2

/-- A tree is loaded if and only if every element that is reached is complete. Otherwise the error
is that of the first offence on the way. -/
theorem Schema.ofTree_first_offence (t : Tree) :
    ((∃ s, ofTree t = .ok s) ↔ ∀ v ∈ Role.document.visited t, v.1.IsComplete v.2) ∧
      ((¬∀ v ∈ Role.document.visited t, v.1.IsComplete v.2) →
        ∃ offence, (Role.document.allOffences t).head? = some offence ∧
          ∃ e, ofTree t = .error e ∧ e.message = offence.message) := by
  rw [← Role.allOffences_eq_nil_iff]
  have hreports := reports_ofTree t
  cases hoffences : Role.document.allOffences t with
  | nil =>
    rw [hoffences] at hreports
    exact ⟨iff_of_true hreports rfl, fun h => absurd rfl h⟩
  | cons offence rest =>
    rw [hoffences] at hreports
    obtain ⟨e, herror, hmessage⟩ := hreports
    refine ⟨iff_of_false ?_ (List.cons_ne_nil _ _), fun _ => ⟨offence, rfl, e, herror, hmessage⟩⟩
    rintro ⟨s, hok⟩
    rw [herror] at hok
    cases hok

/-- Enumerations are looked at before functions, whatever comes first in the document. -/
example :
    Schema.ofTree (.element "interfaces" [] [.element "interface" [("name", "UI")]
      [.element "function" [] [], .element "enum" [("name", "Mode")] [.element "element" [] []]]]) =
      .error (.missingAttribute "element" none "name") := by
  rfl

end DeclGen
