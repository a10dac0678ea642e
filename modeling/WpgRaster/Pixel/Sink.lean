import WpgRaster.Color.Space
import WpgRaster.Frame.Error

/-!
# Row sinks

A row sink receives the unpacked rows of a frame. For every row it is
first asked to begin the row, which tells how many samples the row can
take; then the samples are written and the row is committed. Rows come
from top to bottom.
-/

namespace WpgRaster

/-- What receives unpacked rows. -/
class RowSink (κ : Type) where
  /-- Pixels in a row. -/
  width : κ → Nat
  /-- The number of rows. -/
  height : κ → Nat
  /-- The colour space of the samples. -/
  colorSpace : κ → ColorSpace
  /-- Begins a row and answers how many samples it can take. -/
  beginRow (row : Nat) : EStateM RasterError κ Nat
  /-- Writes the first samples of a row that was begun. -/
  writeRow (row : Nat) (samples : Array UInt16) : κ → κ
  /-- Marks a row that was begun as complete. -/
  commitRow (row : Nat) : EStateM RasterError κ Unit

end WpgRaster
