import WpgRaster.Frame.Error

/-!
# Stops

A decode asks now and then whether it should go on. A `Stop` answers: it
decides by how often it was asked before, and it counts the questions.
-/

namespace WpgRaster

/-- A caller's wish to stop. -/
structure Stop where
  /-- The answer to the question asked after so many others. -/
  answer : Nat → Option StopReason
  /-- How often the stop was asked. -/
  checks : Nat

namespace Stop

/-- The stop that never fires. -/
def never : Stop := ⟨fun _ => none, 0⟩

/-- The stop that lets `count` questions pass and fires from then on. -/
def after (count : Nat) (reason : StopReason) : Stop :=
  ⟨fun asked => if asked < count then none else some reason, 0⟩

/-- Asks whether to go on. -/
def check : EStateM RasterError Stop Unit := fun stop =>
  let asked := { stop with checks := stop.checks + 1 }
  match stop.answer stop.checks with
  | none => .ok () asked
  | some reason => .error (.stopped reason) asked

end Stop

end WpgRaster
