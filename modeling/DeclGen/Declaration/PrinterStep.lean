import DeclGen.Declaration.Printer

/-!
Everything that can be asked of a printer, step by step. A step that fails changes nothing.
-/

namespace DeclGen

inductive PrinterStep where
  | enter (name heading : String)
  | leave
  | addComments (comments : List String)
  | add (line : String)
  | print (declaration : Declaration)
  | printAll (declarations : List Declaration)
  deriving Repr

namespace Printer

/-- The printer after a step. -/
def perform (p : Printer) : PrinterStep → Except PrinterFault Printer
  | .enter name heading => .ok (p.enter name heading)
  | .leave => p.leave
  | .addComments comments => .ok (p.addComments comments)
  | .add line => .ok (p.add line)
  | .print declaration => .ok (p.print declaration)
  | .printAll declarations => (p.printAll declarations).map (·.1)

/-- The printer after a step, or as it was if the step fails. -/
def attempt (p : Printer) (step : PrinterStep) : Printer :=
  match p.perform step with
  | .ok p' => p'
  | .error _ => p

/-- The printer after steps, each of which may fail. -/
def attemptAll (p : Printer) (steps : List PrinterStep) : Printer := steps.foldl attempt p

theorem attempt_eq_self_of_error {p : Printer} {step : PrinterStep} {fault : PrinterFault}
    (h : p.perform step = .error fault) : p.attempt step = p := by
  rw [attempt, h]

end Printer

end DeclGen
