import WpgRaster.Frame.Error
import WpgRaster.Size

/-!
# The quantum

Every decoded sample is a number from 0 to `quantumMax = 65535`, whatever
its precision was in the file. A sample `raw` becomes the integer nearest
to `raw * 65535 / maxRaw`, where `maxRaw` is the largest sample of its
depth, so that 0 stays 0 and the largest sample becomes the quantum.

`QuantumTable` holds this map for one depth. Up to 16 bits its values are
tabulated, for deeper samples they are computed when they are asked for.
-/

namespace WpgRaster

/-- The largest value of a decoded sample. -/
def quantumMax : Nat := 65535

/-- The value of an 8-bit sample; 65535 is 257 times 255. -/
def quantumOfByte (value : UInt8) : UInt16 := value.toUInt16 * 257

/-- The integer nearest to `raw * quantumMax / maxRaw`: half a unit is
added before the quotient is rounded down. -/
def rescale (raw maxRaw : Nat) : Nat := (raw * quantumMax * 2 + maxRaw) / (maxRaw * 2)

/-- Zero stays zero. -/
theorem rescale_zero (maxRaw : Nat) : rescale 0 maxRaw = 0 := by
  rcases Nat.eq_zero_or_pos maxRaw with rfl | pos
  · rfl
  · exact Nat.div_eq_of_lt (by omega)

/-- The largest sample becomes the quantum. -/
theorem rescale_self {maxRaw : Nat} (pos : 0 < maxRaw) : rescale maxRaw maxRaw = quantumMax := by
  unfold rescale
  rw [show maxRaw * quantumMax * 2 + maxRaw = quantumMax * (maxRaw * 2) + maxRaw by
    rw [Nat.mul_comm maxRaw, Nat.mul_assoc]]
  rw [Nat.mul_comm quantumMax, Nat.mul_add_div (by omega), Nat.div_eq_of_lt (by omega),
    Nat.add_zero]

/-- The map from samples of one depth to the quantum. -/
structure QuantumTable where
  /-- Bits in a sample. -/
  depth : Nat
  /-- The values of all samples, empty if they are computed on demand. -/
  table : Array UInt16
  deriving DecidableEq, Repr

namespace QuantumTable

/-- The greatest depth whose values are tabulated. -/
def maxTabulated : Nat := 16

/-- The greatest depth of a sample. -/
def maxDepth : Nat := 24

/-- The table of a depth from 1 to 24. -/
def build (depth : Nat) : Except RasterError QuantumTable :=
  if depth = 0 ∨ maxDepth < depth then .error (.unsupportedDepth depth)
  else
    let maxRaw := Size.values depth - 1
    let table :=
      if depth ≤ maxTabulated then
        Array.ofFn fun raw : Fin (maxRaw + 1) => (rescale raw maxRaw).toUInt16
      else #[]
    .ok { depth, table }

/-- The table of one channel of a pixel. Pixels of 24 bits have three
channels of 8 bits each. -/
def forPixelDepth (bitsPerPixel : Nat) : Except RasterError QuantumTable :=
  match bitsPerPixel with
  | 1 | 2 | 4 | 8 | 16 => build bitsPerPixel
  | 24 => build 8
  | _ => .error (.unsupportedDepth bitsPerPixel)

/-- The table of another depth; the same table for the same depth. -/
def rebuild (lut : QuantumTable) (depth : Nat) : Except RasterError QuantumTable :=
  if depth = lut.depth then .ok lut else build depth

/-- The largest sample of the depth. -/
def maxRaw (lut : QuantumTable) : Nat := Size.values lut.depth - 1

/-- The tabulated values, if there are any. -/
def values? (lut : QuantumTable) : Option (Array UInt16) :=
  if lut.table.isEmpty then none else some lut.table

/-- The value of a sample. Samples beyond the largest are taken for it. -/
def get (lut : QuantumTable) (raw : Nat) : UInt16 :=
  let raw := min raw lut.maxRaw
  match lut.table[raw]? with
  | some value => value
  | none => (rescale raw lut.maxRaw).toUInt16

end QuantumTable

end WpgRaster
