import DeclGen.Declaration.Layout
import DeclGen.Declaration.Printer

/-!
A printer with its stack of scopes writes layouts. What it adds to the current scope for a
declaration is the layout of that declaration, indented to the depth of the scope, whatever scopes
are open.
-/

namespace DeclGen

open Text

theorem indented_zero (line : String) : indented 0 line = line := by
  simp [indented]

theorem indented_one (line : String) : indented 1 line = "    " ++ line := rfl

/-- Indenting twice adds the depths. -/
theorem indented_indented (m n : Nat) (line : String) :
    indented m (indented n line) = indented (m + n) line := by
  have h : 4 * (m + n) = 4 * m + 4 * n := by omega
  rw [indented, indented, indented, ← String.append_assoc, ← String.ofList_append,
    List.replicate_append_replicate, h]

theorem map_indented_zero (lines : List String) : lines.map (indented 0) = lines := by
  rw [funext indented_zero, List.map_id']

theorem map_indented_deeper (n : Nat) (lines : List String) :
    (deeper lines).map (indented n) = lines.map (indented (n + 1)) := by
  rw [deeper, List.map_map]
  exact List.map_congr_left fun line _ => indented_indented n 1 line

namespace Printer

theorem addAll_append (p : Printer) (lines lines' : List String) :
    p.addAll (lines ++ lines') = (p.addAll lines).addAll lines' :=
  List.foldl_append

/-- Added lines stand behind those of the current scope, indented to its depth. -/
theorem addAll_eq (p : Printer) (lines : List String) :
    p.addAll lines =
      { p with current := p.current.append (lines.map (indented p.depth)) } := by
  induction lines generalizing p with
  | nil => simp [addAll, Scope.append]
  | cons line lines ih =>
    change (p.add line).addAll lines = _
    rw [ih]
    simp [add, depth, Scope.add, Scope.append]

theorem addComments_eq_addAll (p : Printer) (comments : List String) :
    p.addComments comments = p.addAll (comments.map docComment) := by
  rw [addComments, addAll, List.foldl_map]

theorem add_eq_addAll (p : Printer) (line : String) : p.add line = p.addAll [line] := rfl

/-- A scope that is entered, filled and closed leaves a block in the scope around it. -/
theorem close_enter (p : Printer) (name heading : String) (lines : List String) :
    ((p.enter name heading).addAll lines).close = p.addAll (block heading lines) := by
  rw [addAll_eq, addAll_eq, block]
  simp [enter, close, add, depth, Scope.add, Scope.append, Scope.empty, map_indented_deeper]

theorem printProperties_eq_addAll (p : Printer) (properties : List Property) :
    properties.foldl printProperty p = p.addAll (properties.flatMap Property.layout) := by
  induction properties generalizing p with
  | nil => rfl
  | cons property properties ih =>
    have hone : p.printProperty property = p.addAll property.layout := by
      rw [printProperty, addComments_eq_addAll, Property.layout, addAll_append, add_eq_addAll]
    rw [List.foldl_cons, ih, hone, List.flatMap_cons, addAll_append]

theorem printEnum_eq_addAll (p : Printer) (e : DiscreteEnum) :
    p.printEnum e = p.addAll e.layout := by
  rw [printEnum, close_enter, addComments_eq_addAll, DiscreteEnum.layout, addAll_append]

theorem printUnion_eq_addAll (p : Printer) (u : LiteralUnion) :
    p.printUnion u = p.addAll u.layout := by
  rw [printUnion, addComments_eq_addAll, LiteralUnion.layout, addAll_append, add_eq_addAll]

theorem printRecord_eq_addAll (p : Printer) (r : Record) :
    p.printRecord r = p.addAll r.layout := by
  rw [printRecord, printProperties_eq_addAll, close_enter, addComments_eq_addAll, Record.layout,
    addAll_append]

mutual

/-- Printing a declaration adds its layout to the current scope. -/
theorem print_eq_addAll (p : Printer) : ∀ d : Declaration, p.print d = p.addAll d.layout
  | .discrete e => by rw [print, printEnum_eq_addAll, Declaration.layout]
  | .union u => by rw [print, printUnion_eq_addAll, Declaration.layout]
  | .record r => by rw [print, printRecord_eq_addAll, Declaration.layout]
  | .space name body comments => by
    rw [print, printList_eq_addAll _ body, close_enter, addComments_eq_addAll, Declaration.layout,
      addAll_append]

theorem printList_eq_addAll (p : Printer) :
    ∀ ds : List Declaration, p.printList ds = p.addAll (layoutAll ds)
  | [] => by rw [printList, layoutAll, addAll, List.foldl_nil]
  | d :: ds => by
    rw [printList, printList_eq_addAll _ ds, print_eq_addAll p d, layoutAll, addAll_append]

end

end Printer

theorem layoutAll_eq_flatMap (ds : List Declaration) :
    layoutAll ds = ds.flatMap Declaration.layout := by
  induction ds with
  | nil => rw [layoutAll, List.flatMap_nil]
  | cons d ds ih => rw [layoutAll, ih, List.flatMap_cons]

/-- A fresh printer returns the layouts as they are. -/
theorem printedLines_eq_layoutAll (ds : List Declaration) : printedLines ds = layoutAll ds := by
  rw [printedLines, Printer.printList_eq_addAll, Printer.addAll_eq]
  exact map_indented_zero (layoutAll ds)

theorem printedLines_singleton (d : Declaration) : printedLines [d] = d.layout := by
  rw [printedLines_eq_layoutAll, layoutAll_eq_flatMap, List.flatMap_singleton]

namespace Printer

theorem printList_append (p : Printer) (ds ds' : List Declaration) :
    p.printList (ds ++ ds') = (p.printList ds).printList ds' := by
  simp only [printList_eq_addAll, layoutAll_append, addAll_append]

theorem isAtRoot_printList (p : Printer) (ds : List Declaration) :
    (p.printList ds).isAtRoot = p.isAtRoot := by
  rw [printList_eq_addAll, addAll_eq]
  rfl

/-- Printing in two steps on one printer is printing in one step. -/
theorem printAll_append (p : Printer) (ds ds' : List Declaration) :
    (p.printAll ds >>= fun r => r.1.printAll ds') = p.printAll (ds ++ ds') := by
  cases h : p.isAtRoot with
  | true =>
    have h' := (isAtRoot_printList p ds).trans h
    simp [printAll, h, h', printList_append, bind, Except.bind]
  | false => simp [printAll, h, bind, Except.bind]

/-- The printer is compositional. At any depth it adds to the current scope what a fresh printer
returns for the declaration, one indentation for every open scope, and changes nothing else; a
namespace consists of what fresh printers return for its body. -/
theorem print_compositional :
    (∀ (p : Printer) (d : Declaration), p.print d = { p with current := ⟨p.current.name,
      p.current.lines ++ (printedLines [d]).map (indented p.depth)⟩ }) ∧
    (∀ name body comments, printedLines [.space name body comments] =
      comments.map docComment ++ [namespaceHeading name] ++
        (body.flatMap fun d => printedLines [d]).map ("    " ++ ·) ++ ["\x7d"]) ∧
    (∀ ds, ∃ p, fresh.printAll ds = .ok (p, printedLines ds) ∧
      printedLines ds = ds.flatMap fun d => printedLines [d]) ∧
    ∀ (p : Printer) (ds ds' : List Declaration),
      (p.printAll ds >>= fun r => r.1.printAll ds') = p.printAll (ds ++ ds') := by
  refine ⟨?_, ?_, ?_, printAll_append⟩
  · intro p d
    rw [printedLines_singleton, print_eq_addAll, addAll_eq]
    rfl
  · intro name body comments
    simp only [printedLines_singleton]
    rw [Declaration.layout, block, layoutAll_eq_flatMap, deeper, funext indented_one]
    simp
  · intro ds
    simp only [printedLines_singleton]
    exact ⟨_, rfl, by rw [printedLines_eq_layoutAll, layoutAll_eq_flatMap]⟩

end Printer

end DeclGen
