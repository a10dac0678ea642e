import WpgRaster.Frame.Error
import WpgRaster.Source.Basic

/-!
# Run-length tokens

Compressed rasters are sequences of control bytes, each followed by the
operands it asks for. There are two generations of them; both are read
into the same `Token`s.

The first generation splits a control byte into its top bit and the
number `n` of the other seven.

| top bit | `n` | operand | meaning |
|---|---|---|---|
| clear | not 0 | | the next `n` bytes as they are |
| clear | 0 | `m` | the row above, `m` times |
| set | not 0 | `b` | `n` times the byte `b` |
| set | 0 | `m` | `m` times the byte `0xFF` |

The second works on samples of 1 to 8 bytes, at first of one byte. Here
`s` is the size of a sample and `n` again the lower seven bits.

| control | operand | meaning |
|---|---|---|
| `0x7D` | `m` | samples have `m` bytes from now on |
| `0x7E` | | the delta mode is switched |
| `0x7F` | `m` | `s * (m + 1)` bytes 0 |
| `0xFD` | `m` | the last sample, `m + 1` times |
| `0xFE` | `m` | the row above, `m + 1` times |
| `0xFF` | `m` | `s * (m + 1)` bytes `0xFF` |
| other, top bit set | a sample | that sample, `n + 1` times |
| other, top bit clear | | the next `s * (n + 1)` bytes as they are |
-/

namespace WpgRaster

/-- What a control byte and its operands say. -/
inductive Token
  /-- The next bytes of the source as they are. -/
  | copy (count : Nat)
  /-- One byte several times. -/
  | fill (value : UInt8) (count : Nat)
  /-- The sample several times. -/
  | repeatSample (count : Nat)
  /-- The row above several times. -/
  | repeatRow (count : Nat)
  /-- Samples of another size. -/
  | setSampleSize (size : Nat)
  /-- The delta mode switched. -/
  | toggleDelta
  deriving DecidableEq, Repr

/-- The two sets of control bytes. -/
inductive Generation
  /-- Control bytes for single bytes. -/
  | first
  /-- Control bytes for samples. -/
  | second
  deriving DecidableEq, Repr

/-- The sample that tokens of the second generation refer to. -/
structure SampleRegister where
  /-- Eight bytes, of which the first `size` are the sample. -/
  bytes : List UInt8 := List.replicate 8 0
  /-- Bytes in a sample. -/
  size : Nat := 1
  deriving DecidableEq, Repr

namespace SampleRegister

/-- The bytes of the sample. -/
def sample (reg : SampleRegister) : List UInt8 := reg.bytes.take reg.size

/-- The register with another sample of the present size. Bytes beyond
the sample keep their values. -/
def load (reg : SampleRegister) (sample : List UInt8) : SampleRegister :=
  { reg with bytes := sample ++ reg.bytes.drop sample.length }

/-- Bytes in `runs + 1` samples. -/
def runBytes (reg : SampleRegister) (runs : Nat) : Nat := reg.size * (runs + 1)

end SampleRegister

namespace Token

variable {σ : Type} [ByteSource σ]

/-- The next byte of a compressed raster. A source that ends here is
truncated, a source that fails elsewhere is broken. One that cannot tell
whether it has ended counts as truncated. -/
def nextByte : EStateM RasterError σ UInt8 := fun source =>
  match ByteSource.next source with
  | .ok byte source => .ok byte source
  | .error err source =>
    match ByteSource.atEnd source with
    | .ok false => .error (.source err) source
    | .ok true | .error _ => .error .streamTruncated source

/-- The next `count` bytes of a compressed raster. -/
def nextBytes : (count : Nat) → EStateM RasterError σ (List UInt8)
  | 0 => pure []
  | count + 1 => do
    let byte ← nextByte
    return byte :: (← nextBytes count)

/-- The next operand, as a number. -/
def operand : EStateM RasterError σ Nat := return (← nextByte).toNat

/-- Reads a token of the first generation. -/
def readFirst : EStateM RasterError σ Token := do
  let control ← operand
  let n := control % 0x80
  if control < 0x80 then
    if n = 0 then return .repeatRow (← operand) else return .copy n
  else
    if n = 0 then return .fill 0xFF (← operand) else return .fill (← nextByte) n

/-- Reads a token of the second generation, and the sample it brings. -/
def readSecond (reg : SampleRegister) : EStateM RasterError σ (Token × SampleRegister) := do
  let control ← operand
  let n := control % 0x80
  match control with
  | 0x7D =>
    let size ← operand
    if 1 ≤ size ∧ size ≤ 8 then return (.setSampleSize size, reg)
    else throw (.invalidSampleSize size)
  | 0x7E => return (.toggleDelta, reg)
  | 0x7F => return (.fill 0x00 (reg.runBytes (← operand)), reg)
  | 0xFD => return (.repeatSample ((← operand) + 1), reg)
  | 0xFE => return (.repeatRow ((← operand) + 1), reg)
  | 0xFF => return (.fill 0xFF (reg.runBytes (← operand)), reg)
  | _ =>
    if control < 0x80 then return (.copy (reg.runBytes n), reg)
    else return (.repeatSample (n + 1), reg.load (← nextBytes reg.size))

/-- Reads a token of either generation. -/
def read (generation : Generation) (reg : SampleRegister) :
    EStateM RasterError σ (Token × SampleRegister) :=
  match generation with
  | .first => do return (← readFirst, reg)
  | .second => readSecond reg

end Token

end WpgRaster
