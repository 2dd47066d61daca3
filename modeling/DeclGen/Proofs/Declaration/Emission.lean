import DeclGen.Declaration.PrinterStep
import DeclGen.Proofs.Declaration.Layout

/-!
What a printer has emitted. The log of a sequence of steps lists every line with the depth at which
it is emitted; whatever scopes are open in between, their lines from the root inwards are the log.
-/

namespace DeclGen

open Text

/-- A line, and the depth at which it is emitted. -/
structure Emission where
  depth : Nat
  line : String
  deriving DecidableEq, Repr

/-- The line as it is printed: behind four spaces for every level. -/
def Emission.text (e : Emission) : String := indented e.depth e.line

def emitAt (depth : Nat) (lines : List String) : List Emission := lines.map (⟨depth, ·⟩)

/-- A heading, what is emitted below it, and the closing brace beside the heading. -/
def emitBlock (depth : Nat) (heading : String) (inner : List Emission) : List Emission :=
  ⟨depth, heading⟩ :: inner ++ [⟨depth, "\x7d"⟩]

mutual

/-- What a declaration emits at a depth. -/
def Declaration.emissions (depth : Nat) : Declaration → List Emission
  | .discrete e => emitAt depth (e.leadingComments.map docComment) ++
      emitBlock depth (enumHeading e.name) (emitAt (depth + 1) (memberLines e.members))
  | .union u => emitAt depth (u.leadingComments.map docComment ++ [u.text])
  | .record r => emitAt depth (r.leadingComments.map docComment) ++
      emitBlock depth (recordHeading r.name)
        (emitAt (depth + 1) (r.properties.flatMap Property.layout))
  | .space name body comments => emitAt depth (comments.map docComment) ++
      emitBlock depth (namespaceHeading name) (emissionsAll (depth + 1) body)

def emissionsAll (depth : Nat) : List Declaration → List Emission
  | [] => []
  | d :: ds => d.emissions depth ++ emissionsAll depth ds

end

namespace PrinterStep

/-- What a step emits if it succeeds at a depth. A scope is closed at the depth of its parent. -/
def emissions (depth : Nat) : PrinterStep → List Emission
  | enter _ heading => [⟨depth, heading⟩]
  | leave => [⟨depth - 1, "\x7d"⟩]
  | addComments comments => emitAt depth (comments.map docComment)
  | add line => [⟨depth, line⟩]
  | print declaration => declaration.emissions depth
  | printAll declarations => emissionsAll depth declarations

def isEnter : PrinterStep → Bool
  | enter _ _ => true
  | _ => false

def isLeave : PrinterStep → Bool
  | leave => true
  | _ => false

end PrinterStep

namespace Printer

/-- The lines of all open scopes, from the root to the current one. -/
def openLines (p : Printer) : List String := p.outer.reverse.flatMap (·.lines) ++ p.current.lines

def succeeds (p : Printer) (step : PrinterStep) : Bool := (p.perform step).isOk

/-- The steps of a sequence that succeed. -/
def succeeding (p : Printer) : List PrinterStep → List PrinterStep
  | [] => []
  | step :: steps =>
    (if p.succeeds step then [step] else []) ++ (p.attempt step).succeeding steps

/-- The log of a sequence of steps. A step that fails emits nothing. -/
def log (p : Printer) : List PrinterStep → List Emission
  | [] => []
  | step :: steps =>
    (if p.succeeds step then step.emissions p.depth else []) ++ (p.attempt step).log steps

end Printer

theorem text_emitAt (depth : Nat) (lines : List String) :
    (emitAt depth lines).map Emission.text = lines.map (indented depth) := by
  rw [emitAt, List.map_map]
  rfl

theorem text_emitBlock {depth : Nat} {heading : String} {inner : List Emission}
    {lines : List String} (h : inner.map Emission.text = lines.map (indented (depth + 1))) :
    (emitBlock depth heading inner).map Emission.text =
      (block heading lines).map (indented depth) := by
  rw [emitBlock, block]
  simp only [List.map_append, List.map_cons, List.map_nil, h, map_indented_deeper, Emission.text]

mutual

/-- What a declaration emits is its layout, indented to the depth. -/
theorem text_emissions (depth : Nat) : ∀ d : Declaration,
    (d.emissions depth).map Emission.text = d.layout.map (indented depth)
  | .discrete e => by
    rw [Declaration.emissions, Declaration.layout, DiscreteEnum.layout, List.map_append,
      List.map_append, text_emitAt, text_emitBlock (text_emitAt _ _)]
  | .union u => by
    rw [Declaration.emissions, Declaration.layout, LiteralUnion.layout, text_emitAt]
  | .record r => by
    rw [Declaration.emissions, Declaration.layout, Record.layout, List.map_append,
      List.map_append, text_emitAt, text_emitBlock (text_emitAt _ _)]
  | .space name body comments => by
    rw [Declaration.emissions, Declaration.layout, List.map_append, List.map_append, text_emitAt,
      text_emitBlock (text_emissionsAll (depth + 1) body)]

theorem text_emissionsAll (depth : Nat) : ∀ ds : List Declaration,
    (emissionsAll depth ds).map Emission.text = (layoutAll ds).map (indented depth)
  | [] => by rw [emissionsAll, layoutAll, List.map_nil, List.map_nil]
  | d :: ds => by
    rw [emissionsAll, layoutAll, List.map_append, List.map_append, text_emissions depth d,
      text_emissionsAll depth ds]

end

namespace Printer

theorem openLines_addAll (p : Printer) (lines : List String) :
    (p.addAll lines).openLines = p.openLines ++ lines.map (indented p.depth) := by
  simp [addAll_eq, openLines, Scope.append]

theorem openLines_enter (p : Printer) (name heading : String) :
    (p.enter name heading).openLines = p.openLines ++ [indented p.depth heading] := by
  simp [enter, openLines, add, Scope.add, Scope.append, Scope.empty]

/-- Closing a scope moves its lines behind those of its parent, where they stood already. -/
theorem openLines_close {p : Printer} (h : p.isAtRoot = false) :
    p.close.openLines = p.openLines ++ [indented (p.depth - 1) "\x7d"] := by
  obtain ⟨current, outer⟩ := p
  cases outer with
  | nil => exact absurd h (by simp [isAtRoot])
  | cons parent outer => simp [close, openLines, add, depth, Scope.add, Scope.append]

theorem depth_addAll (p : Printer) (lines : List String) : (p.addAll lines).depth = p.depth := by
  rw [addAll_eq]
  rfl

theorem depth_close (p : Printer) : p.close.depth = p.depth - 1 := by
  obtain ⟨current, outer⟩ := p
  cases outer with
  | nil => rfl
  | cons parent outer => rfl

theorem isAtRoot_iff (p : Printer) : p.isAtRoot = true ↔ p.depth = 0 := by
  rw [isAtRoot, List.isEmpty_iff, depth, List.length_eq_zero_iff]

/-- A step either succeeds or leaves the printer as it is. -/
theorem attempt_cases (p : Printer) (step : PrinterStep) :
    (∃ p', p.perform step = .ok p' ∧ p.attempt step = p' ∧ p.succeeds step = true) ∨
      (∃ fault, p.perform step = .error fault ∧ p.attempt step = p ∧
        p.succeeds step = false) := by
  cases h : p.perform step with
  | ok p' => exact .inl ⟨p', rfl, by rw [attempt, h], by rw [succeeds, h]; rfl⟩
  | error fault =>
    exact .inr ⟨fault, rfl, attempt_eq_self_of_error h, by rw [succeeds, h]; rfl⟩

theorem perform_leave (p : Printer) :
    p.perform .leave = if p.isAtRoot then .error .leavesRoot else .ok p.close := rfl

theorem perform_printAll (p : Printer) (ds : List Declaration) :
    p.perform (.printAll ds) =
      if p.isAtRoot then .ok (p.printList ds) else .error .notAtRoot := by
  rw [perform, printAll]
  split <;> rfl

/-- A step that succeeds emits its lines behind all lines of the open scopes. -/
theorem openLines_of_perform {p p' : Printer} {step : PrinterStep}
    (h : p.perform step = .ok p') :
    p'.openLines = p.openLines ++ (step.emissions p.depth).map Emission.text := by
  cases step with
  | enter name heading =>
    cases h
    exact openLines_enter p name heading
  | leave =>
    rw [perform_leave] at h
    split at h
    · cases h
    · next hroot =>
      cases h
      exact openLines_close (Bool.eq_false_iff.mpr hroot)
  | addComments comments =>
    cases h
    rw [addComments_eq_addAll, openLines_addAll, PrinterStep.emissions, text_emitAt]
  | add line =>
    cases h
    exact openLines_addAll p [line]
  | print d =>
    cases h
    rw [print_eq_addAll, openLines_addAll, PrinterStep.emissions, text_emissions]
  | printAll ds =>
    rw [perform_printAll] at h
    split at h
    · cases h
      rw [printList_eq_addAll, openLines_addAll, PrinterStep.emissions, text_emissionsAll]
    · cases h

/-- Only entering and leaving change the depth. -/
theorem depth_of_perform {p p' : Printer} {step : PrinterStep} (h : p.perform step = .ok p') :
    p'.depth + [step].countP PrinterStep.isLeave = p.depth + [step].countP PrinterStep.isEnter := by
  cases step with
  | enter name heading =>
    cases h
    rfl
  | leave =>
    rw [perform_leave] at h
    split at h
    · cases h
    · next hroot =>
      cases h
      have hdepth : p.depth ≠ 0 := fun h0 => hroot ((isAtRoot_iff p).mpr h0)
      have hleave : [PrinterStep.leave].countP PrinterStep.isLeave = 1 := rfl
      have henter : [PrinterStep.leave].countP PrinterStep.isEnter = 0 := rfl
      rw [depth_close, hleave, henter]
      omega
  | addComments comments =>
    cases h
    rw [addComments_eq_addAll, depth_addAll]
    rfl
  | add line =>
    cases h
    rfl
  | print d =>
    cases h
    rw [print_eq_addAll, depth_addAll]
    rfl
  | printAll ds =>
    rw [perform_printAll] at h
    split at h
    · cases h
      rw [printList_eq_addAll, depth_addAll]
      rfl
    · cases h

theorem perform_eq_leavesRoot {p : Printer} {step : PrinterStep} :
    p.perform step = .error .leavesRoot ↔ step = .leave ∧ p.depth = 0 := by
  cases step with
  | leave =>
    rw [perform_leave, ← isAtRoot_iff]
    cases p.isAtRoot <;> simp
  | printAll ds =>
    rw [perform_printAll]
    cases p.isAtRoot <;> simp
  | enter _ _ | addComments _ | add _ | print _ => simp [perform]

theorem perform_eq_notAtRoot {p : Printer} {step : PrinterStep} :
    p.perform step = .error .notAtRoot ↔ (∃ ds, step = .printAll ds) ∧ p.depth ≠ 0 := by
  cases step with
  | leave =>
    rw [perform_leave]
    cases p.isAtRoot <;> simp
  | printAll ds =>
    rw [perform_printAll, Ne, ← isAtRoot_iff]
    cases p.isAtRoot <;> simp
  | enter _ _ | addComments _ | add _ | print _ => simp [perform]

theorem isEnter_eq_false_of_error {p : Printer} {step : PrinterStep} {fault : PrinterFault}
    (h : p.perform step = .error fault) : step.isEnter = false := by
  cases fault with
  | leavesRoot =>
    obtain ⟨rfl, _⟩ := perform_eq_leavesRoot.mp h
    rfl
  | notAtRoot =>
    obtain ⟨⟨ds, rfl⟩, _⟩ := perform_eq_notAtRoot.mp h
    rfl

/-- The open scopes hold what they held before, then the log. -/
theorem openLines_attemptAll (p : Printer) (steps : List PrinterStep) :
    (p.attemptAll steps).openLines = p.openLines ++ (p.log steps).map Emission.text := by
  induction steps generalizing p with
  | nil => simp [attemptAll, log]
  | cons step steps ih =>
    change ((p.attempt step).attemptAll steps).openLines = _
    rw [ih, log]
    rcases attempt_cases p step with ⟨p', hok, hattempt, hsucceeds⟩ | ⟨_, _, hsame, hfails⟩
    · rw [hattempt, hsucceeds, if_pos rfl, List.map_append, openLines_of_perform hok,
        List.append_assoc]
    · rw [hsame, hfails, if_neg Bool.false_ne_true, List.nil_append]

/-- Every scope that was entered is open, or was left. -/
theorem depth_attemptAll (p : Printer) (steps : List PrinterStep) :
    (p.attemptAll steps).depth + (p.succeeding steps).countP PrinterStep.isLeave =
      p.depth + steps.countP PrinterStep.isEnter := by
  induction steps generalizing p with
  | nil => rfl
  | cons step steps ih =>
    have hrest := ih (p.attempt step)
    have henters : (step :: steps).countP PrinterStep.isEnter =
        [step].countP PrinterStep.isEnter + steps.countP PrinterStep.isEnter := by
      rw [← List.singleton_append, List.countP_append]
    change ((p.attempt step).attemptAll steps).depth + _ = _
    rw [succeeding, List.countP_append, henters]
    rcases attempt_cases p step with ⟨p', hok, hattempt, hsucceeds⟩ | ⟨_, herror, hsame, hfails⟩
    · have hstep := depth_of_perform hok
      rw [hattempt] at hrest ⊢
      rw [hsucceeds, if_pos rfl]
      omega
    · have henter : [step].countP PrinterStep.isEnter = 0 := by
        simp [isEnter_eq_false_of_error herror]
      rw [hsame] at hrest ⊢
      rw [hfails, if_neg Bool.false_ne_true, List.countP_nil, henter]
      omega

/-- After any steps on a fresh printer, failing ones among them, the lines of the open scopes are
the log and the depth counts the scopes that were entered and not left. Only leaving the root and
printing everything elsewhere fail, and they leave the printer as it is. -/
theorem openLines_eq_log (steps : List PrinterStep) :
    (fresh.attemptAll steps).openLines = (fresh.log steps).map Emission.text ∧
    ((fresh.attemptAll steps).depth : Int) = steps.countP PrinterStep.isEnter -
      (fresh.succeeding steps).countP PrinterStep.isLeave ∧
    ∀ p : Printer,
      (∀ step, (p.perform step = .error .leavesRoot ∧ p.attempt step = p) ↔
        (step = .leave ∧ p.depth = 0)) ∧
      (∀ step, (p.perform step = .error .notAtRoot ∧ p.attempt step = p) ↔
        ((∃ ds, step = .printAll ds) ∧ p.depth ≠ 0)) := by
  refine ⟨openLines_attemptAll fresh steps, ?_, fun p => ⟨fun step => ?_, fun step => ?_⟩⟩
  · have hdepth := depth_attemptAll fresh steps
    have hfresh : fresh.depth = 0 := rfl
    omega
  · rw [← perform_eq_leavesRoot]
    exact ⟨And.left, fun h => ⟨h, attempt_eq_self_of_error h⟩⟩
  · rw [← perform_eq_notAtRoot]
    exact ⟨And.left, fun h => ⟨h, attempt_eq_self_of_error h⟩⟩

end Printer

end DeclGen
