import WpgRaster.Pixel.Buffer

/-!
# Guarded sinks

A `GuardedSink` is a pixel buffer behind a guard that may announce another
size than the buffer has, hand out shorter rows and refuse to begin or
to commit rows from some index on.
-/

namespace WpgRaster

/-- A pixel buffer and its guard. -/
structure GuardedSink where
  /-- The buffer. -/
  buffer : PixelBuffer
  /-- The width that is announced. -/
  width : Nat
  /-- The height that is announced. -/
  height : Nat
  /-- The colour space that is announced. -/
  colorSpace : ColorSpace
  /-- The most samples a row is begun with. -/
  rowLength : Option Nat := none
  /-- The first row that is not begun. -/
  beginLimit : Option Nat := none
  /-- The first row that is not committed. -/
  commitLimit : Option Nat := none
  deriving DecidableEq, Repr

namespace GuardedSink

/-- The widest row that is kept although it is handed out shortened. -/
def maxKeptWidth : Nat := 0x100000

/-- A guard over a fresh buffer. The buffer has the announced size, but a
width above `maxKeptWidth` is only announced if rows are handed out
shortened. -/
def make (width height : Nat) (colorSpace : ColorSpace)
    (rowLength beginLimit commitLimit : Option Nat) : Except RasterError GuardedSink := do
  let kept := if rowLength.isSome ∧ maxKeptWidth < width then 1 else width
  let buffer ← PixelBuffer.make kept height colorSpace
  return { buffer, width, height, colorSpace, rowLength, beginLimit, commitLimit }

/-- Fails for rows a limit excludes. -/
def guardRow (row : Nat) (limit : Option Nat) : Except RasterError Unit :=
  match limit with
  | some first => if first ≤ row then .error (.rowOutOfBounds row first) else .ok ()
  | none => .ok ()

/-- Runs an operation of the buffer behind the guard. -/
def onBuffer {α : Type} (op : EStateM RasterError PixelBuffer α) :
    EStateM RasterError GuardedSink α := fun sink =>
  match op sink.buffer with
  | .ok a buffer => .ok a { sink with buffer }
  | .error err buffer => .error err { sink with buffer }

/-- Begins a row, shortened if the guard says so. -/
def beginRow (row : Nat) : EStateM RasterError GuardedSink Nat := fun sink =>
  match guardRow row sink.beginLimit with
  | .error err => .error err sink
  | .ok () =>
    match onBuffer (PixelBuffer.beginRow row) sink with
    | .ok length sink => .ok ((sink.rowLength.map (min length)).getD length) sink
    | .error err sink => .error err sink

/-- Writes the first samples of a row. -/
def writeRow (row : Nat) (samples : Array UInt16) (sink : GuardedSink) : GuardedSink :=
  { sink with buffer := sink.buffer.writeRow row samples }

/-- Commits a row. -/
def commitRow (row : Nat) : EStateM RasterError GuardedSink Unit := fun sink =>
  match guardRow row sink.commitLimit with
  | .error err => .error err sink
  | .ok () => onBuffer (PixelBuffer.commitRow row) sink

instance : RowSink GuardedSink where
  width := width
  height := height
  colorSpace := colorSpace
  beginRow := beginRow
  writeRow := writeRow
  commitRow := commitRow

end GuardedSink

end WpgRaster
