import WpgRaster.Color.Palette
import WpgRaster.Pixel.Layout

/-!
# Frame formats

A `FrameFormat` says everything about a raster that is not in its bytes:
how many pixels it has, how they are packed and how the rows are
compressed.
-/

namespace WpgRaster

/-- How the rows of a frame are stored. -/
inductive Compression
  /-- Packed rows one after another. -/
  | none
  /-- Run-length tokens of the first generation. -/
  | first
  /-- Run-length tokens of the second generation. -/
  | second
  deriving DecidableEq, Repr

/-- The format of a frame. -/
structure FrameFormat where
  /-- Pixels in a row. -/
  columns : Nat
  /-- The number of rows. -/
  rows : Nat
  /-- Bits of a pixel. -/
  depth : Nat
  /-- What its samples stand for. -/
  model : ColorModel
  /-- How rows are stored. -/
  compression : Compression := .none
  /-- Whether the row above is kept beside the row in progress. -/
  paired : Bool := false
  /-- The palette that indices refer to. -/
  palette : Option Palette := .none
  /-- Components, which take the place of depth and model. -/
  components : Option (List Component) := .none
  /-- Whether samples are two's complement numbers. -/
  signed : Bool := false
  deriving DecidableEq, Repr

namespace FrameFormat

/-- The format with another compression. The second generation needs the
row above for its deltas. -/
def withCompression (format : FrameFormat) (compression : Compression) : FrameFormat :=
  { format with compression, paired := compression == .second }

/-- The colour space a sink of the frame has. -/
def colorSpace (format : FrameFormat) : Except RasterError ColorSpace :=
  match format.components with
  | some components => colorSpaceOfComponents components
  | none => colorSpaceOf format.depth format.model

/-- Bits of a pixel in a packed row. -/
def bitsPerPixel (format : FrameFormat) : Nat :=
  match format.components with
  | some components => Component.totalBytes components * 8
  | none => format.depth

/-- The number of whole bytes that hold so many bits, if the computation
fits a word. -/
def byteWidth? (bitsPerPixel columns : Nat) : Option Nat := do
  let bits ← Size.add? (← Size.mul? bitsPerPixel columns) 7
  return bits / 8

/-- Bytes in a packed row. -/
def rowByteWidth (format : FrameFormat) : Except RasterError Nat :=
  match byteWidth? format.bitsPerPixel format.columns with
  | some width => .ok width
  | none => .error (.tooLarge .packedRow (Size.largest / 24) format.columns)

end FrameFormat

end WpgRaster
