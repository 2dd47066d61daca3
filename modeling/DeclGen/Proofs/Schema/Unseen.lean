import DeclGen.Proofs.Schema.Role
import Mathlib.Data.List.Forall2
import Mathlib.Logic.Relation

/-!
What loading does not see: children and attributes that it does not ask for, character data outside
descriptions, the order of children with different tags, and the markup inside a description. Trees
that differ in nothing else are loaded to the same model, or fail with the same error.
-/

namespace DeclGen

open Xml

/-- One difference between two elements of a role that loading does not see. -/
inductive Edit : Role → Tree → Tree → Prop where
  /-- A child whose tag is not asked for comes in. -/
  | child {role : Role} {tag name : String} {attributes given : List (String × String)}
      {inner : List Tree} (before after : List Tree) (hrole : role ≠ .description)
      (hname : ∀ part ∈ role.parts, name ≠ part.tag) :
      Edit role (.element tag attributes (before ++ after))
        (.element tag attributes (before ++ .element name given inner :: after))
  /-- Attributes that are not asked for change. -/
  | attributes {role : Role} {tag : String} {attributes attributes' : List (String × String)}
      {children : List Tree}
      (hsame : ∀ name ∈ role.attributes, attributes.lookup name = attributes'.lookup name) :
      Edit role (.element tag attributes children) (.element tag attributes' children)
  /-- Character data comes in, but not inside a description. -/
  | characters {role : Role} {tag content : String} {attributes : List (String × String)}
      (before after : List Tree) (hrole : role ≠ .description) :
      Edit role (.element tag attributes (before ++ after))
        (.element tag attributes (before ++ .text content :: after))
  /-- Children change places, and those with equal tags keep their order. -/
  | order {role : Role} {tag : String} {attributes : List (String × String)}
      {children children' : List Tree} (hrole : role ≠ .description)
      (hperm : children.Perm children')
      (horder : ∀ name : String, children.filter (·.tag? == some name) =
        children'.filter (·.tag? == some name)) :
      Edit role (.element tag attributes children) (.element tag attributes children')
  /-- The text of a description is spread over its markup in another way. -/
  | markup {tag : String} {attributes : List (String × String)} {children children' : List Tree}
      (htext : Tree.textContents children = Tree.textContents children') :
      Edit .description (.element tag attributes children) (.element tag attributes children')
  /-- A child that is asked for has such a difference itself. -/
  | inside {role part : Role} {tag : String} {attributes : List (String × String)}
      {child child' : Tree} (before after : List Tree) (hpart : part ∈ role.parts)
      (htag : child.tag? = some part.tag) (hedit : Edit part child child') :
      Edit role (.element tag attributes (before ++ child :: after))
        (.element tag attributes (before ++ child' :: after))

/-- Nothing of an element but its children, its text and its attributes is ever changed. -/
theorem Edit.tag?_eq {role : Role} {t t' : Tree} (h : Edit role t t') : t.tag? = t'.tag? := by
  cases h <;> rfl

/-- Neighbours with different tags may change places. -/
theorem Edit.swap {role : Role} {tag : String} {attributes : List (String × String)}
    {first second : Tree} (before after : List Tree) (hrole : role ≠ .description)
    (hne : first.tag? ≠ second.tag?) :
    Edit role (.element tag attributes (before ++ first :: second :: after))
      (.element tag attributes (before ++ second :: first :: after)) := by
  refine .order hrole ((List.Perm.swap _ _ _).append_left before) fun name => ?_
  by_cases hfirst : first.tag? = some name
  · have hsecond : second.tag? ≠ some name := fun h => hne (hfirst.trans h.symm)
    simp [hfirst, hsecond]
  · simp [List.filter_cons, hfirst]

/-- Two elements give the same result in a role. -/
def LoadedAlike : Role → Tree → Tree → Prop
  | .document, t, t' => Schema.ofTree t = Schema.ofTree t'
  | .interface, t, t' => Load.interface t = Load.interface t'
  | .enumeration, t, t' => Load.enumeration t = Load.enumeration t'
  | .element, t, t' => Load.element t = Load.element t'
  | .struct, t, t' => Load.struct t = Load.struct t'
  | .function, t, t' => Load.function t = Load.function t'
  | .param, t, t' => Load.param t = Load.param t'
  | .description, t, t' => t.textContent = t'.textContent

theorem LoadedAlike.refl (role : Role) (t : Tree) : LoadedAlike role t t := by
  cases role <;> rfl

/-- Two elements agree in all that their role asks for. -/
structure Alike (role : Role) (t t' : Tree) : Prop where
  tag : t.tag? = t'.tag?
  texts : ∀ name ∈ role.attributes, t.attribute? name = t'.attribute? name
  parts : ∀ part ∈ role.parts,
    List.Forall₂ (LoadedAlike part) (t.childrenWith part.tag) (t'.childrenWith part.tag)

/-- Children that are loaded alike one by one give the same results. -/
theorem map_eq_of_forall₂ {α : Type} {load : Tree → α} {ts ts' : List Tree}
    (h : List.Forall₂ (fun t t' => load t = load t') ts ts') : ts.map load = ts'.map load := by
  induction h with
  | nil => rfl
  | cons hhead _ ih => rw [List.map_cons, List.map_cons, hhead, ih]

theorem mapM_eq_of_forall₂ {α : Type} {load : Tree → Except SchemaError α} {ts ts' : List Tree}
    (h : List.Forall₂ (fun t t' => load t = load t') ts ts') : ts.mapM load = ts'.mapM load := by
  induction h with
  | nil => rfl
  | cons hhead _ ih => rw [List.mapM_cons, List.mapM_cons, hhead, ih]

namespace Alike

section

variable {role : Role} {t t' : Tree} (h : Alike role t t')
include h

theorem optional_eq {name : String} (hname : name ∈ role.attributes) :
    Load.optional t name = Load.optional t' name := by
  rw [Load.optional, Load.optional, h.texts name hname]

/-- The error for a missing attribute names the element, which is the same too. -/
theorem required_eq {name : String} (howner : "name" ∈ role.attributes)
    (hname : name ∈ role.attributes) : Load.required t name = Load.required t' name := by
  rw [Load.required, Load.required, h.optional_eq hname, h.optional_eq howner, h.tag]

theorem params_eq (hpart : Role.param ∈ role.parts) :
    (t.childrenWith "param").mapM Load.param = (t'.childrenWith "param").mapM Load.param :=
  mapM_eq_of_forall₂ (h.parts .param hpart)

theorem descriptions_eq (hpart : Role.description ∈ role.parts) :
    Load.descriptions t = Load.descriptions t' :=
  map_eq_of_forall₂ (h.parts .description hpart)

end

/-- Elements that agree in all that is asked for give the same result. -/
theorem loadedAlike {role : Role} {t t' : Tree} (h : Alike role t t')
    (hrole : role ≠ .description) : LoadedAlike role t t' := by
  cases role with
  | document =>
    have hinterfaces : (t.childrenWith "interface").mapM Load.interface =
        (t'.childrenWith "interface").mapM Load.interface :=
      mapM_eq_of_forall₂ (h.parts .interface (by decide))
    show Schema.ofTree t = Schema.ofTree t'
    rw [Schema.ofTree, Schema.ofTree, h.tag, hinterfaces, h.optional_eq (by decide),
      h.optional_eq (by decide)]
  | interface =>
    have henums : (t.childrenWith "enum").mapM Load.enumeration =
        (t'.childrenWith "enum").mapM Load.enumeration :=
      mapM_eq_of_forall₂ (h.parts .enumeration (by decide))
    have hstructs : (t.childrenWith "struct").mapM Load.struct =
        (t'.childrenWith "struct").mapM Load.struct :=
      mapM_eq_of_forall₂ (h.parts .struct (by decide))
    have hfunctions : (t.childrenWith "function").mapM Load.function =
        (t'.childrenWith "function").mapM Load.function :=
      mapM_eq_of_forall₂ (h.parts .function (by decide))
    show Load.interface t = Load.interface t'
    rw [Load.interface, Load.interface, h.required_eq (by decide) (by decide), henums, hstructs,
      hfunctions, h.descriptions_eq (by decide)]
  | enumeration =>
    have helements : (t.childrenWith "element").mapM Load.element =
        (t'.childrenWith "element").mapM Load.element :=
      mapM_eq_of_forall₂ (h.parts .element (by decide))
    show Load.enumeration t = Load.enumeration t'
    rw [Load.enumeration, Load.enumeration, h.required_eq (by decide) (by decide), helements,
      h.descriptions_eq (by decide)]
  | element =>
    show Load.element t = Load.element t'
    rw [Load.element, Load.element, h.required_eq (by decide) (by decide),
      h.optional_eq (by decide), h.descriptions_eq (by decide)]
  | struct =>
    have hparams := h.params_eq (by decide)
    show Load.struct t = Load.struct t'
    rw [Load.struct, Load.struct, h.required_eq (by decide) (by decide), hparams,
      h.descriptions_eq (by decide)]
  | function =>
    have hparams := h.params_eq (by decide)
    show Load.function t = Load.function t'
    rw [Load.function, Load.function, h.required_eq (by decide) (by decide),
      h.required_eq (by decide) (by decide), hparams, h.optional_eq (by decide),
      h.descriptions_eq (by decide)]
  | param =>
    have hoptional : ∀ name ∈ Role.param.attributes,
        Load.optional t name = Load.optional t' name := fun name => h.optional_eq
    simp only [Role.attributes, List.forall_mem_cons] at hoptional
    obtain ⟨_, _, harray, hmandatory, hdefault, hminvalue, hmaxvalue, hminlength, hmaxlength, _⟩ :=
      hoptional
    show Load.param t = Load.param t'
    rw [Load.param, Load.param, h.required_eq (by decide) (by decide),
      h.required_eq (by decide) (by decide), harray, hmandatory, hdefault, hminvalue, hmaxvalue,
      hminlength, hmaxlength, h.descriptions_eq (by decide)]
  | description => exact absurd rfl hrole

/-- It is enough that the same children are found. -/
theorem of_childrenWith_eq {role : Role} {t t' : Tree} (htag : t.tag? = t'.tag?)
    (htexts : ∀ name ∈ role.attributes, t.attribute? name = t'.attribute? name)
    (hparts : ∀ part ∈ role.parts, t.childrenWith part.tag = t'.childrenWith part.tag) :
    Alike role t t' := by
  refine ⟨htag, htexts, fun part hpart => ?_⟩
  rw [hparts part hpart]
  exact List.forall₂_same.mpr fun child _ => LoadedAlike.refl part child

end Alike

/-- A single difference is not seen, however deep it lies. -/
theorem Edit.loadedAlike {role : Role} {t t' : Tree} (h : Edit role t t') :
    LoadedAlike role t t' := by
  induction h with
  | child before after hrole hname =>
    refine Alike.loadedAlike (.of_childrenWith_eq rfl (fun _ _ => rfl) ?_) hrole
    intro part hpart
    simp [Tree.childrenWith, Tree.children, Tree.tag?, hname part hpart]
  | @attributes role tag attributes attributes' children hsame =>
    by_cases hrole : role = .description
    · subst hrole
      rfl
    · exact Alike.loadedAlike (.of_childrenWith_eq rfl hsame fun _ _ => rfl) hrole
  | characters before after hrole =>
    refine Alike.loadedAlike (.of_childrenWith_eq rfl (fun _ _ => rfl) ?_) hrole
    intro part hpart
    simp [Tree.childrenWith, Tree.children, Tree.tag?]
  | order hrole _ horder =>
    refine Alike.loadedAlike (.of_childrenWith_eq rfl (fun _ _ => rfl) ?_) hrole
    intro part _
    exact horder part.tag
  | markup htext => exact htext
  | @inside role part _ _ child child' before after hpart htag hedit ih =>
    have hrole : role ≠ .description := by
      rintro rfl
      exact absurd hpart List.not_mem_nil
    have htag' : child'.tag? = some part.tag := hedit.tag?_eq.symm.trans htag
    refine Alike.loadedAlike ⟨rfl, fun _ _ => rfl, ?_⟩ hrole
    intro other _
    have hsame (ts : List Tree) : List.Forall₂ (LoadedAlike other) ts ts :=
      List.forall₂_same.mpr fun t _ => LoadedAlike.refl other t
    simp only [Tree.childrenWith, Tree.children, List.filter_append, List.filter_cons, htag, htag']
    -- Only the children of the role in which the difference lies are not the same.
    by_cases hother : other = part
    · subst hother
      simp only [beq_self_eq_true, if_true]
      exact List.rel_append (hsame _) (.cons ih (hsame _))
    · have hne : (some part.tag == some other.tag) = false := by
        simpa using fun h => hother (Role.tag_injective h).symm
      simp only [hne, Bool.false_eq_true, if_false]
      exact hsame _

/-- Trees that differ in nothing but what loading does not see are loaded to the same model, or
fail with the same error. -/
theorem Schema.ofTree_eq_of_edits {t t' : Tree} (h : Relation.EqvGen (Edit .document) t t') :
    ofTree t = ofTree t' := by
  induction h with
  | rel t t' hedit => exact hedit.loadedAlike
  | refl t => rfl
  | symm t t' _ ih => exact ih.symm
  | trans t t' t'' _ _ ih ih' => exact ih.trans ih'

/-- A function of a kind that does not exist. -/
def strayFunction : Tree := .element "function" [("name", "Show"), ("messagetype", "event")] []

/-- A parameter outside any function. -/
def strayParam : Tree := .element "param" [("name", "lost")] []

/-- A description with one word in bold. -/
def boldText : Tree :=
  .element "description" [] [.text "Shows ", .element "b" [] [.text "all"], .text "."]

/-- The same description with other words in italics. -/
def italicText : Tree :=
  .element "description" [] [.element "i" [] [.text "Shows all"], .text "."]

/-- A document with one interface. -/
def page (given : List (String × String)) (before parts : List Tree) : Tree :=
  .element "interfaces" given (before ++ [.element "interface" [("name", "UI")] parts])

/-- Two documents differ in each of the ways that are not seen, and fail with one error. -/
theorem Schema.ofTree_page :
    Relation.EqvGen (Edit .document) (page [] [] [boldText, strayFunction])
        (page [("author", "me")] [.text "\n"] [strayParam, strayFunction, italicText]) ∧
      ofTree (page [] [] [boldText, strayFunction]) =
        ofTree (page [("author", "me")] [.text "\n"] [strayParam, strayFunction, italicText]) := by
  have inPage {parts parts' : List Tree}
      (h : Edit .interface (.element "interface" [("name", "UI")] parts)
        (.element "interface" [("name", "UI")] parts')) :
      Relation.EqvGen (Edit .document) (page [] [] parts) (page [] [] parts') :=
    .rel _ _ (.inside [] [] (by decide : Role.interface ∈ Role.document.parts) rfl h)
  have horder : Relation.EqvGen (Edit .document) (page [] [] [boldText, strayFunction])
      (page [] [] [strayFunction, boldText]) :=
    inPage (.swap [] [] (by decide) (by decide))
  have hmarkup : Relation.EqvGen (Edit .document) (page [] [] [strayFunction, boldText])
      (page [] [] [strayFunction, italicText]) :=
    inPage (.inside [strayFunction] [] (by decide : Role.description ∈ Role.interface.parts) rfl
      (.markup (by decide)))
  have hchild : Relation.EqvGen (Edit .document) (page [] [] [strayFunction, italicText])
      (page [] [] [strayParam, strayFunction, italicText]) :=
    inPage (.child [] [strayFunction, italicText] (by decide) (by decide))
  have hattributes : Relation.EqvGen (Edit .document)
      (page [] [] [strayParam, strayFunction, italicText])
      (page [("author", "me")] [] [strayParam, strayFunction, italicText]) :=
    .rel _ _ (.attributes (by decide))
  have hcharacters : Relation.EqvGen (Edit .document)
      (page [("author", "me")] [] [strayParam, strayFunction, italicText])
      (page [("author", "me")] [.text "\n"] [strayParam, strayFunction, italicText]) :=
    .rel _ _ (.characters [] _ (by decide))
  have hedits := (((horder.trans _ _ _ hmarkup).trans _ _ _ hchild).trans _ _ _
    hattributes).trans _ _ _ hcharacters
  exact ⟨hedits, ofTree_eq_of_edits hedits⟩

end DeclGen
