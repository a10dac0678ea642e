import WpgRaster.Color.Space
import WpgRaster.Frame.Error

/-!
# Row layouts

How the pixels of a packed row are laid out. A row is described either by
the bits of a pixel and a `ColorModel`, or by a list of `Component`s with
a precision each. Both descriptions lead to a `Layout`, and the layout
decides the colour space of the unpacked row.
-/

namespace WpgRaster

/-- What the samples of a pixel stand for. -/
inductive ColorModel
  /-- A gray level. -/
  | gray
  /-- An index into a palette. -/
  | indexed
  /-- Levels of red, green and blue. -/
  | direct
  deriving DecidableEq, Repr

/-- One sample of an interleaved pixel. -/
structure Component where
  /-- Bits of precision. -/
  depth : Nat
  /-- Whether samples are two's complement numbers. -/
  signed : Bool := false
  deriving DecidableEq, Repr

/-- Bytes a component takes in a row: two if it has more than 8 bits, the
more significant one first. -/
def Component.storedBytes (component : Component) : Nat :=
  if component.depth ≤ 8 then 1 else 2

/-- Bytes that several components take together. -/
def Component.totalBytes : List Component → Nat
  | [] => 0
  | component :: rest => component.storedBytes + totalBytes rest

/-- The arrangement of a packed row. -/
inductive Layout
  /-- Gray levels of so many bits, the first in the most significant bits
  of a byte. -/
  | gray (bits : Nat)
  /-- Palette indices of so many bits, arranged alike. -/
  | indexed (bits : Nat)
  /-- So many components a pixel, in whole bytes. -/
  | interleaved (count : Nat)
  deriving DecidableEq, Repr

namespace Layout

/-- The layout of pixels of a depth. Pixels of one bit are gray in every
model. -/
def resolve (depth : Nat) (model : ColorModel) : Except RasterError Layout :=
  match depth, model with
  | 1, _ => .ok (.gray 1)
  | 2, .gray | 4, .gray | 8, .gray => .ok (.gray depth)
  | 2, .indexed | 4, .indexed | 8, .indexed => .ok (.indexed depth)
  | 16, .gray => .ok (.interleaved 1)
  | 24, .direct => .ok (.interleaved 3)
  | _, _ => .error (.unsupportedDepth depth)

/-- The components of a pixel of the given depth. -/
def components (layout : Layout) (depth : Nat) : List Component :=
  match layout with
  | gray bits | indexed bits => [{ depth := bits }]
  | interleaved 3 => List.replicate 3 { depth := 8 }
  | interleaved _ => [{ depth }]

/-- The colour space rows are unpacked to. -/
def colorSpace : Layout → ColorSpace
  | gray _ | interleaved 1 => .luma
  | interleaved 2 => .lumaA
  | indexed _ | interleaved 3 => .rgb
  | interleaved 4 => .rgba
  | interleaved _ => .unknown

end Layout

/-- The colour space of unpacked pixels of a depth. -/
def colorSpaceOf (depth : Nat) (model : ColorModel) : Except RasterError ColorSpace :=
  return (← Layout.resolve depth model).colorSpace

/-- The colour space of unpacked components: one to four of them, with 1
to 16 bits each. -/
def colorSpaceOfComponents (components : List Component) :
    Except RasterError ColorSpace :=
  if components.length = 0 ∨ 4 < components.length then
    .error (.unsupportedComponents components.length)
  else
    match components.find? fun c => c.depth = 0 || 16 < c.depth with
    | some c => .error (.unsupportedDepth c.depth)
    | none => .ok (Layout.interleaved components.length).colorSpace

end WpgRaster
