import WpgRaster.Container.Bitmap
import WpgRaster.Container.Options
import WpgRaster.Frame.Decode
import WpgRaster.Pixel.Buffer

/-!
# Decoded frames

A frame is a bitmap with its pixels. A bitmap that was damaged may still
be a frame; its `FrameStatus` tells how much of it came from the file.
-/

namespace WpgRaster

/-- How much of a frame came from the file. -/
inductive FrameStatus
  /-- All of it. -/
  | complete
  /-- So many rows; the raster ended there and the others are zero. -/
  | truncated (rowsDecoded : Nat)
  /-- The rows in front of a malformed token; the others are zero. -/
  | aborted (cause : RasterError)
  deriving DecidableEq, Repr

/-- What becomes of a bitmap: a frame of some status, or an error. -/
def FrameStatus.ofResult (options : Options) :
    Except RasterError Outcome → Except RasterError FrameStatus
  | .ok .complete => .ok .complete
  | .ok (.truncated rowsDecoded) =>
    if options.rejectTruncated then .error .streamTruncated
    else .ok (.truncated rowsDecoded)
  | .error err =>
    if err.abortsFrame && !options.rejectAborted then .ok (.aborted err) else .error err

/-- A bitmap with its pixels. -/
structure Frame where
  /-- What the record said. -/
  bitmap : Bitmap
  /-- The pixels. -/
  pixels : PixelBuffer
  /-- The colormap they were decoded with. Bitmaps of one bit have one
  although their pixels are gray. -/
  colormap : Option Palette
  /-- How much came from the file. -/
  status : FrameStatus
  deriving DecidableEq, Repr

/-- Whether the whole frame came from the file. -/
def Frame.isComplete (frame : Frame) : Bool := frame.status == .complete

/-- Whether an error of a bitmap fails the file: some errors always do,
the others only for a strict decoder. -/
def Options.rejects (options : Options) : RasterError → Bool
  | .stopped _ | .source _ | .allocationFailure _ => true
  | _ => options.isStrict

end WpgRaster
