import WpgRaster.Color.Quantum
import WpgRaster.Source.Basic
import WpgRaster.Size

/-!
# Palettes

A palette is an ordered list of colours with a capacity that it never
outgrows. Its colours are rescaled to the quantum once, when they are
loaded. Every operation checks its whole range before it changes
anything, so one that fails has no effect.
-/

namespace WpgRaster

/-- A colour, in quantum samples. -/
structure PaletteEntry where
  /-- Red. -/
  red : UInt16
  /-- Green. -/
  green : UInt16
  /-- Blue. -/
  blue : UInt16
  /-- Opacity. -/
  opacity : UInt16
  deriving DecidableEq, Repr

namespace PaletteEntry

/-- The colour with the given 8-bit samples. -/
def ofBytes (red green blue opacity : UInt8) : PaletteEntry :=
  ⟨quantumOfByte red, quantumOfByte green, quantumOfByte blue, quantumOfByte opacity⟩

/-- Opaque black, the colour of entries that were never set. -/
def black : PaletteEntry := ofBytes 0 0 0 255

/-- Whether the colour is black, whatever its opacity. -/
def isBlack (entry : PaletteEntry) : Bool :=
  entry.red == 0 && entry.green == 0 && entry.blue == 0

/-- The colour written in the first bytes of an entry: red, green, blue
and, in entries of more than three bytes, the opacity. -/
def ofEntryBytes (bytes : Bytes) (stride : Nat) : PaletteEntry :=
  ofBytes (bytes[0]?.getD 0) (bytes[1]?.getD 0) (bytes[2]?.getD 0)
    (if 3 < stride then bytes[3]?.getD 0 else 255)

end PaletteEntry

/-- A bounded list of colours. -/
structure Palette where
  /-- The colours. -/
  entries : Array PaletteEntry
  /-- The most colours the palette may hold. -/
  capacity : Nat
  deriving DecidableEq, Repr

namespace Palette

/-- The empty palette of a capacity. -/
def withCapacity (capacity : Nat) : Palette := ⟨#[], capacity⟩

/-- A full palette of opaque colours. -/
def ofRGB (colors : Array (UInt8 × UInt8 × UInt8)) : Palette :=
  ⟨colors.map fun (red, green, blue) => .ofBytes red green blue 255, colors.size⟩

/-- How many colours there are. -/
def count (palette : Palette) : Nat := palette.entries.size

/-- Whether there is no colour. -/
def isEmpty (palette : Palette) : Bool := palette.entries.isEmpty

/-- The colour at an index, if there is one. -/
def get? (palette : Palette) (index : Nat) : Option PaletteEntry := palette.entries[index]?

/-- The palette without its colours. -/
def clear (palette : Palette) : Palette := { palette with entries := #[] }

/-- Bytes of a colour in memory. -/
def entryBytes : Nat := 8

/-- Grows a palette to `len` colours with black. A palette of as many
colours or more stays as it is. -/
def resize (palette : Palette) (len : Nat) : Except RasterError Palette :=
  if palette.capacity < len then .error (.paletteOverflow 0 len palette.capacity)
  else if len ≤ palette.count then .ok palette
  else if Size.allocatable (len * entryBytes) then
    .ok { palette with
      entries := palette.entries ++ Array.replicate (len - palette.count) .black }
  else .error (.starved len entryBytes)

/-- Growing keeps the capacity. -/
theorem capacity_resize {palette grown : Palette} {len : Nat}
    (h : palette.resize len = .ok grown) : grown.capacity = palette.capacity := by
  unfold resize at h
  split at h
  · cases h
  · split at h
    · cases h; rfl
    · split at h
      · cases h; rfl
      · cases h

/-- A grown palette has as many colours as were asked for, or as it had
before if those were more. -/
theorem count_resize {palette grown : Palette} {len : Nat}
    (h : palette.resize len = .ok grown) : grown.count = max palette.count len := by
  unfold resize at h
  split at h
  · cases h
  · split at h
    · cases h; omega
    · split at h
      · cases h
        simp only [count, Array.size_append, Array.size_replicate] at *
        omega
      · cases h

/-- Sets one colour, growing the palette with black if necessary. -/
def set (palette : Palette) (index : Nat) (entry : PaletteEntry) :
    Except RasterError Palette :=
  if palette.capacity ≤ index then .error (.paletteOverflow index 1 palette.capacity)
  else do
    let palette ← palette.resize (index + 1)
    return { palette with entries := palette.entries.setIfInBounds index entry }

/-- Puts `count` colours read from `data`, `stride` bytes each, at the
indices from `start` on. -/
def write (data : Bytes) (stride start : Nat) :
    (count : Nat) → Array PaletteEntry → Array PaletteEntry
  | 0, entries => entries
  | n + 1, entries =>
    let entries := write data stride start n entries
    let chunk := data.extract (n * stride) ((n + 1) * stride)
    entries.setIfInBounds (start + n) (.ofEntryBytes chunk stride)

/-- Writing entries adds none. -/
@[simp] theorem size_write (data : Bytes) (stride start count : Nat)
    (entries : Array PaletteEntry) :
    (write data stride start count entries).size = entries.size := by
  induction count with
  | zero => rfl
  | succ n ih => simp [write, ih]

/-- Loads `count` colours from `data`, `stride` bytes each, to the indices
from `start` on. The gap below `start`, if there is one, becomes black. -/
def load (palette : Palette) (start count : Nat) (data : Bytes) (stride : Nat) :
    Except RasterError Palette :=
  let available := data.size / stride
  if stride < 3 then .error .narrowPaletteEntry
  else if palette.capacity < start + count ∨ Size.limit ≤ start + count then
    .error (.paletteOverflow start count palette.capacity)
  else if available < count then .error (.paletteOverflow start count available)
  else do
    let palette ← palette.resize (start + count)
    return { palette with entries := write data stride start count palette.entries }

/-- The colour at an index and whether the index was too large: then it
is the last colour. -/
def lookup (palette : Palette) (index : Nat) : PaletteEntry × Bool :=
  match palette.entries[index]? with
  | some entry => (entry, false)
  | none => (palette.entries.back?.getD .black, true)

end Palette

end WpgRaster
