import WpgRaster.Pixel.Expansion
import WpgRaster.Pixel.Sink
import WpgRaster.Row.Assembler

/-!
# Unpackers

An `Unpacker` is the consumer of packed rows that decoding a frame uses:
it expands every row and passes the samples on to a row sink. It is set
up for rows of known layout, and only for a sink that agrees with them on
width and colour space.
-/

namespace WpgRaster

/-- An expander and the sink of its rows. -/
structure Unpacker (κ : Type) where
  /-- How rows are expanded. -/
  expander : Expander
  /-- Where they go. -/
  sink : κ
  /-- Palette indices so far that were too large. -/
  clamped : Nat

namespace Unpacker

variable {κ : Type} [RowSink κ]

/-- The unpacker of rows of a layout, if the sink agrees. -/
def build (columns : Nat) (layout : Layout) (components : List Component)
    (palette : Palette) (sink : κ) : Except RasterError (Unpacker κ) := do
  if RowSink.width sink ≠ columns then
    throw (.dimensionMismatch .width columns (RowSink.width sink))
  let expected := layout.colorSpace
  if RowSink.colorSpace sink ≠ expected then
    throw (.dimensionMismatch .components expected.components
      (RowSink.colorSpace sink).components)
  let scales ← components.mapM ComponentScale.build
  return { expander := { layout, columns, scales, palette }, sink, clamped := 0 }

/-- The palette of a layout: indices need one with a colour in it, other
pixels need none. -/
def paletteFor (layout : Layout) (depth : Nat) (palette : Option Palette) :
    Except RasterError Palette :=
  match layout, palette with
  | .indexed _, some palette =>
    if palette.isEmpty then .error (.missingPalette depth) else .ok palette
  | .indexed _, none => .error (.missingPalette depth)
  | _, _ => .ok (.withCapacity 0)

/-- The unpacker of pixels of a depth. -/
def ofDepth (columns depth : Nat) (model : ColorModel) (palette : Option Palette)
    (sink : κ) : Except RasterError (Unpacker κ) := do
  let layout ← Layout.resolve depth model
  let palette ← paletteFor layout depth palette
  build columns layout (layout.components depth) palette sink

/-- The unpacker of pixels with interleaved components. -/
def ofComponents (columns : Nat) (components : List Component) (sink : κ) :
    Except RasterError (Unpacker κ) := do
  let _ ← colorSpaceOfComponents components
  build columns (.interleaved components.length) components (.withCapacity 0) sink

/-- Treats all components as signed or as unsigned. Palette indices have
no sign. -/
def setSigned (unpacker : Unpacker κ) (signed : Bool) : Unpacker κ :=
  { unpacker with expander := unpacker.expander.setSigned signed }

/-- Expands a row into the sink. How many samples that are is computed with
no check, and before the sink begins the row. -/
def consumeRow (row : Nat) (bytes : Bytes) : EStateM RasterError (Unpacker κ) Unit :=
  fun ⟨expander, sink, clamped⟩ =>
    let expected := expander.sampleCount
    if Size.limit ≤ expected then .error .overflow ⟨expander, sink, clamped⟩
    else match RowSink.beginRow row sink with
    | .error err sink => .error err ⟨expander, sink, clamped⟩
    | .ok length sink =>
      if length < expected then
        .error (.dimensionMismatch .rowLength expected length) ⟨expander, sink, clamped⟩
      else
        let sink := RowSink.writeRow row (expander.expand bytes) sink
        let clamped := clamped + expander.clampedIn bytes
        match RowSink.commitRow row sink with
        | .ok () sink => .ok () ⟨expander, sink, clamped⟩
        | .error err sink => .error err ⟨expander, sink, clamped⟩

instance : RowConsumer (Unpacker κ) where
  consume := consumeRow

end Unpacker

end WpgRaster
