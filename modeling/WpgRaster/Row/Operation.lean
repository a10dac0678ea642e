import WpgRaster.Row.Assembler

/-!
# Operations of an assembler

Everything that can be asked of an assembler, as data, so that it can be asked for one thing
after another.
-/

namespace WpgRaster

/-- What can be asked of an assembler. -/
inductive RowOp
  /-- To append a byte. -/
  | append (byte : UInt8)
  /-- To append bytes, up to the first one that is refused. -/
  | appendAll (bytes : List UInt8)
  /-- To turn the delta mode on or off. -/
  | toggleDelta
  /-- To repeat the last completed row. -/
  | repeatRow (count : Nat)
  /-- To complete all rows with zeros. -/
  | fillRemaining
  deriving DecidableEq, Repr

namespace RowOp

variable {κ : Type} [RowConsumer κ]

/-- Carries an operation out. To complete all rows answers how many there were. -/
def perform : RowOp → RowM κ (Option Nat)
  | append byte => do
    RowAssembler.append byte
    return none
  | appendAll bytes => do
    RowAssembler.appendAll bytes
    return none
  | toggleDelta => do
    modify fun state => { state with assembler := state.assembler.toggleDelta }
    return none
  | repeatRow count => do
    RowAssembler.repeatRow count
    return none
  | fillRemaining => return some (← RowAssembler.fillRemaining)

/-- Carries operations out one after another, also behind one that failed. -/
def performAll : List RowOp → RowState κ → RowState κ
  | [], state => state
  | op :: ops, state =>
    match op.perform state with
    | .ok _ state | .error _ state => performAll ops state

end RowOp

end WpgRaster
