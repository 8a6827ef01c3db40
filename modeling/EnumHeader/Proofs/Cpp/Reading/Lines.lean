import EnumHeader.Cpp.Layout

/-!
# Lines of steps

What steps write, line by line and without the margins. Raw text, which need not end its line, is
left out.
-/

namespace EnumHeader.Cpp

set_option autoImplicit false

/-- The lines that a step writes, without their indent. -/
def Step.written : Step → List String
  | .line text => [text]
  | .lines texts => texts
  | .blank => [""]
  | .indent | .dedent => []
  | .opening header => [header, "\x7b"]
  | .closing closer => [closer]
  | .function signature statement => [signature, "\x7b", statement, "\x7d"]
  | .raw _ => []

/-- The step writes whole lines. -/
def Step.IsLined : Step → Prop
  | .raw _ => False
  | _ => True

instance : (step : Step) → Decidable step.IsLined
  | .raw _ => isFalse id
  | .line _ | .lines _ | .blank | .indent | .dedent | .opening _ | .closing _ | .function .. =>
      isTrue trivial

namespace Reading

def textAt (unit : String) (depth : Nat) (steps : List Step) : String :=
  (Page.applyAll ⟨unit, depth, ""⟩ steps).text

end Reading

end EnumHeader.Cpp
