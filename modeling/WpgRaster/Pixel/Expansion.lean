import WpgRaster.Color.Palette
import WpgRaster.Pixel.Layout

/-!
# Expanding packed rows

An `Expander` turns the bytes of a packed row into quantum samples. Gray
levels and components go through the table of their depth; palette
indices are replaced by the red, green and blue of their palette entry,
and an index beyond the palette is taken for the last entry and counted.

Signed samples are two's complement numbers. Flipping their top bit maps
the smallest one to zero and keeps their order.

The sample at any place of the expanded row is given by a formula in the
bytes of the packed row (`sample`), so the row is an `Array.ofFn`. Bytes
missing from the packed row count as zero.
-/

namespace WpgRaster

/-- The bits of a packed row that make its `x`-th sample of `bits` bits,
the first sample in the most significant bits of the first byte. -/
def packedSample (row : Bytes) (x bits : Nat) : Nat :=
  let bit := x * bits
  let byte := (row[bit / 8]?.getD 0).toNat
  byte / Size.values (8 - bits - bit % 8) % Size.values bits

/-- How one component is rescaled. -/
structure ComponentScale where
  /-- The values of its samples. -/
  table : QuantumTable
  /-- Whether a sample takes two bytes. -/
  wide : Bool
  /-- What samples are combined with before they are looked up. -/
  flip : Nat
  deriving DecidableEq, Repr

namespace ComponentScale

/-- The scale for signed or unsigned samples. -/
def setSigned (scale : ComponentScale) (signed : Bool) : ComponentScale :=
  { scale with flip := if signed then Size.values (scale.table.depth - 1) else 0 }

/-- The scale of a component. -/
def build (component : Component) : Except RasterError ComponentScale := do
  let table ← QuantumTable.build component.depth
  let scale : ComponentScale := { table, wide := component.storedBytes == 2, flip := 0 }
  return scale.setSigned component.signed

/-- Bytes a sample takes in a row. -/
def storedBytes (scale : ComponentScale) : Nat := if scale.wide then 2 else 1

/-- Bytes that samples of several components take together. -/
def totalBytes : List ComponentScale → Nat
  | [] => 0
  | scale :: rest => scale.storedBytes + totalBytes rest

/-- The value of a sample. -/
def value (scale : ComponentScale) (raw : Nat) : UInt16 :=
  scale.table.get (raw ^^^ scale.flip)

/-- The sample stored at a byte of a row. -/
def rawAt (scale : ComponentScale) (row : Bytes) (offset : Nat) : Nat :=
  let high := (row[offset]?.getD 0).toNat
  if scale.wide then 256 * high + (row[offset + 1]?.getD 0).toNat else high

end ComponentScale

/-- How rows of a frame are expanded. -/
structure Expander where
  /-- Their layout. -/
  layout : Layout
  /-- Pixels in a row. -/
  columns : Nat
  /-- The scales of the components of a pixel. -/
  scales : List ComponentScale
  /-- The palette that indices refer to. -/
  palette : Palette
  deriving DecidableEq, Repr

namespace Expander

/-- Treats all components as signed or as unsigned. -/
def setSigned (exp : Expander) (signed : Bool) : Expander :=
  { exp with scales := exp.scales.map (·.setSigned signed) }

/-- Samples in an expanded row. -/
def sampleCount (exp : Expander) : Nat := exp.columns * exp.layout.colorSpace.components

/-- The scale of the `c`-th component. -/
def scale (exp : Expander) (c : Nat) : ComponentScale :=
  exp.scales[c]?.getD ⟨⟨0, #[]⟩, false, 0⟩

/-- Bytes of a pixel with interleaved components. -/
def pixelBytes (exp : Expander) : Nat := ComponentScale.totalBytes exp.scales

/-- Bytes of a pixel in front of its `c`-th component. -/
def componentOffset (exp : Expander) (c : Nat) : Nat :=
  ComponentScale.totalBytes (exp.scales.take c)

/-- The `c`-th sample of the `x`-th pixel of an expanded row. -/
def sample (exp : Expander) (row : Bytes) (x c : Nat) : UInt16 :=
  match exp.layout with
  | .gray bits => (exp.scale 0).value (packedSample row x bits)
  | .indexed bits =>
    let entry := (exp.palette.lookup (packedSample row x bits)).1
    match c with
    | 0 => entry.red
    | 1 => entry.green
    | _ => entry.blue
  | .interleaved _ =>
    (exp.scale c).value
      ((exp.scale c).rawAt row (x * exp.pixelBytes + exp.componentOffset c))

/-- The expanded row. -/
def expand (exp : Expander) (row : Bytes) : Array UInt16 :=
  let components := exp.layout.colorSpace.components
  Array.ofFn fun i : Fin (exp.columns * components) =>
    exp.sample row (i / components) (i % components)

/-- An expanded row has whole pixels. -/
@[simp] theorem size_expand (exp : Expander) (row : Bytes) :
    (exp.expand row).size = exp.sampleCount := by
  simp [expand, sampleCount]

/-- How many pixels of a row have an index beyond the palette. -/
def clampedIn (exp : Expander) (row : Bytes) : Nat :=
  match exp.layout with
  | .indexed bits =>
    (List.range exp.columns).countP fun x =>
      (exp.palette.lookup (packedSample row x bits)).2
  | _ => 0

end Expander

end WpgRaster
