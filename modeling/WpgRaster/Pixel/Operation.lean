import WpgRaster.Pixel.Buffer

/-!
# Operations of a pixel buffer

Everything that changes an image, as data, so that it can be asked for one thing after another.
A row that is begun may be changed in any way as long as it keeps its length. Here the samples
that it begins with from then on are given, so a row that is given as a whole is any row.
-/

namespace WpgRaster

/-- What can be asked of an image. -/
inductive BufferOp
  /-- To begin a row and write samples to it from the left, as many as there is room for. -/
  | write (row : Nat) (samples : Array UInt16)
  /-- To commit a row. -/
  | commit (row : Nat)
  deriving DecidableEq, Repr

namespace BufferOp

/-- The row that an operation is about. -/
def row : BufferOp → Nat
  | write row _ | commit row => row

/-- Carries an operation out. -/
def perform : BufferOp → EStateM RasterError PixelBuffer Unit
  | write row samples => do
    let length ← PixelBuffer.beginRow row
    modify (PixelBuffer.writeRow row (samples.extract 0 length))
  | commit row => PixelBuffer.commitRow row

/-- Carries operations out one after another, also behind one that failed. -/
def performAll : List BufferOp → PixelBuffer → PixelBuffer
  | [], image => image
  | op :: ops, image =>
    match op.perform image with
    | .ok _ image | .error _ image => performAll ops image

end BufferOp

end WpgRaster
