import WpgRaster.Pixel.Sink

/-!
# Pixel buffers

A `PixelBuffer` is an image in memory: the samples of all rows, one row
after another, and how many rows were committed. It starts out black.
-/

namespace WpgRaster

/-- An image of quantum samples. -/
structure PixelBuffer where
  /-- Pixels in a row. -/
  width : Nat
  /-- The number of rows. -/
  height : Nat
  /-- What the samples of a pixel are. -/
  colorSpace : ColorSpace
  /-- The samples, row by row. -/
  pixels : Array UInt16
  /-- One more than the largest index of a committed row, 0 without any. -/
  rowsCommitted : Nat
  deriving DecidableEq, Repr

namespace PixelBuffer

/-- Bytes of a sample in memory. -/
def sampleBytes : Nat := 2

/-- The number of samples of an image, if it fits a word. -/
def sampleCount? (width height : Nat) (space : ColorSpace) : Option Nat := do
  Size.mul? (← Size.mul? width height) space.components

/-- The black image of a size. -/
def make (width height : Nat) (colorSpace : ColorSpace) :
    Except RasterError PixelBuffer :=
  match sampleCount? width height colorSpace with
  | none => .error (.tooLarge .pixelBuffer Size.largest width)
  | some count =>
    if Size.allocatable (count * sampleBytes) then
      .ok { width, height, colorSpace, pixels := Array.replicate count 0, rowsCommitted := 0 }
    else .error (.starved count sampleBytes)

/-- Samples in a row. -/
def stride (buffer : PixelBuffer) : Nat := buffer.width * buffer.colorSpace.components

/-- The offset of a row, if all that it is computed from fits a word. -/
def offset? (buffer : PixelBuffer) (row : Nat) : Option Nat := do
  Size.mul? row (← Size.mul? buffer.width buffer.colorSpace.components)

/-- The samples between two offsets, if that is a range of the image. -/
def slice? (buffer : PixelBuffer) (first last : Nat) : Option (Array UInt16) :=
  if first ≤ last ∧ last ≤ buffer.pixels.size then some (buffer.pixels.extract first last)
  else none

/-- The samples of a row, if the image has one of that index. The offsets
of the row and of the one behind it are computed with no check. -/
def row? (buffer : PixelBuffer) (row : Nat) : Except RasterError (Option (Array UInt16)) :=
  match buffer.offset? row, Size.add? row 1 >>= buffer.offset? with
  | some first, some last => .ok (buffer.slice? first last)
  | _, _ => .error .overflow

/-- An offset that fits a word is known. -/
theorem offset?_eq (buffer : PixelBuffer) (row : Nat) :
    buffer.offset? row = if buffer.stride < Size.limit ∧ row * buffer.stride < Size.limit
      then some (row * buffer.stride) else none := by
  unfold offset? stride Size.mul?
  by_cases wide : buffer.width * buffer.colorSpace.components < Size.limit
  · simp [wide]
  · simp [wide]

/-- A sample scaled down to eight bits, to the nearest. -/
def toByte (sample : UInt16) : UInt8 := ((sample.toNat * 255 + 32767) / 65535).toUInt8

/-- The image scaled down to eight bits. -/
def toBytes (buffer : PixelBuffer) : Array UInt8 := buffer.pixels.map toByte

/-- Replaces samples from an offset on. -/
def overwrite (pixels : Array UInt16) (offset : Nat) : List UInt16 → Array UInt16
  | [] => pixels
  | sample :: rest => overwrite (pixels.setIfInBounds offset sample) (offset + 1) rest

/-- Overwriting keeps the size of the image. -/
@[simp] theorem size_overwrite (pixels : Array UInt16) (offset : Nat)
    (samples : List UInt16) : (overwrite pixels offset samples).size = pixels.size := by
  induction samples generalizing pixels offset with
  | nil => rfl
  | cons sample rest ih => simp [overwrite, ih]

/-- What is overwritten reads back, the rest of the image is as it was. -/
theorem getElem?_overwrite (pixels : Array UInt16) (offset i : Nat) (samples : List UInt16) :
    (overwrite pixels offset samples)[i]? =
      if i < pixels.size ∧ offset ≤ i ∧ i < offset + samples.length then samples[i - offset]?
      else pixels[i]? := by
  induction samples generalizing pixels offset with
  | nil =>
    rw [if_neg (by simp)]
    rfl
  | cons sample rest ih =>
    simp only [overwrite, ih, Array.size_setIfInBounds, Array.getElem?_setIfInBounds,
      List.length_cons]
    grind

/-- Begins a row of the image. -/
def beginRow (row : Nat) : EStateM RasterError PixelBuffer Nat := fun buffer =>
  if buffer.height ≤ row then .error (.rowOutOfBounds row buffer.height) buffer
  else .ok buffer.stride buffer

/-- Writes the first samples of a row. -/
def writeRow (row : Nat) (samples : Array UInt16) (buffer : PixelBuffer) : PixelBuffer :=
  { buffer with pixels := overwrite buffer.pixels (row * buffer.stride) samples.toList }

/-- Commits a row of the image. -/
def commitRow (row : Nat) : EStateM RasterError PixelBuffer Unit := fun buffer =>
  if buffer.height ≤ row then .error (.rowOutOfBounds row buffer.height) buffer
  else .ok () { buffer with rowsCommitted := max buffer.rowsCommitted (row + 1) }

instance : RowSink PixelBuffer where
  width := width
  height := height
  colorSpace := colorSpace
  beginRow := beginRow
  writeRow := writeRow
  commitRow := commitRow

end PixelBuffer

end WpgRaster
