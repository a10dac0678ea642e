import WpgRaster.Frame.Session
import WpgRaster.RunLength.Token

/-!
# Decoding run-length tokens

Tokens are read and carried out one after another until all rows are
there. Each token consumes a byte of the source at least, so there are no
more tokens than bytes, and that bounds the loop.

The stop is asked after every token that completed a row.
-/

namespace WpgRaster.RunLength

variable {σ κ : Type} [ByteSource σ] [RowConsumer κ]

/-- Appends the next `count` bytes of the source as they are. -/
def copy : (count : Nat) → SessionM σ κ Unit
  | 0 => pure ()
  | count + 1 => do
    let byte ← Session.onSource Token.nextByte
    Session.onRows (RowAssembler.append byte)
    copy count

/-- Carries a token out and answers the sample register behind it. -/
def perform (token : Token) (reg : SampleRegister) : SessionM σ κ SampleRegister := do
  match token with
  | .copy count => copy count
  | .fill value count => Session.onRows (RowAssembler.appendRepeated [value] count)
  | .repeatSample count => Session.onRows (RowAssembler.appendRepeated reg.sample count)
  | .repeatRow count => Session.onRows (RowAssembler.repeatRow count)
  | .setSampleSize size => return { reg with size }
  | .toggleDelta =>
    Session.onRows fun ⟨asm, consumer⟩ => .ok () ⟨asm.toggleDelta, consumer⟩
  return reg

/-- Reads and carries out one token, and asks the stop if a row was
completed by it. -/
def step (generation : Generation) (reg : SampleRegister) : SessionM σ κ SampleRegister := do
  let before := (← Session.assembler).row
  let (token, reg) ← Session.onSource (Token.read generation reg)
  let reg ← perform token reg
  if (← Session.assembler).row ≠ before then Session.checkStop
  return reg

/-- Carries out tokens until all rows are there, but at most `fuel`. -/
def run (generation : Generation) : (fuel : Nat) → SampleRegister → SessionM σ κ Unit
  | 0, _ => throw .streamTruncated
  | fuel + 1, reg => do
    if (← Session.assembler).isComplete then return
    let reg ← step generation reg
    run generation fuel reg

/-- Decodes a compressed raster. The bound on the number of tokens is the
size of the source, and one more for the token that finds it ended. -/
def decode (generation : Generation) : SessionM σ κ Unit := do
  run generation (ByteSource.size (← get).source + 1) {}

end WpgRaster.RunLength
