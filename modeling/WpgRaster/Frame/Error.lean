import WpgRaster.Size
import WpgRaster.Source.Error

/-!
# What goes wrong in a frame

The errors of decoding one raster frame, by cause. Two of them abort a
frame that has begun (`RasterError.abortsFrame`): its remaining rows are
filled with zeros before the error is reported. Two of them are never
reported, since the program ends where they arise: `rowOverrun` and
`overflow`. `RasterError.message` words them all; an error that wraps
another ends with one more line break than the one it wraps.
-/

namespace WpgRaster

/-- Why a caller stopped the decoding. -/
inductive StopReason
  /-- The caller lost interest. -/
  | cancelled
  /-- The caller ran out of time. -/
  | timedOut
  deriving DecidableEq, Repr

/-- A measure on which a frame and its sink may disagree. -/
inductive Measure
  /-- Pixels in a row. -/
  | width
  /-- Rows. -/
  | height
  /-- Samples in a pixel. -/
  | components
  /-- Samples in a row. -/
  | rowLength
  deriving DecidableEq, Repr

/-- What is too large to be addressed. -/
inductive Extent
  /-- A packed row. -/
  | packedRow
  /-- The samples of an image. -/
  | pixelBuffer
  deriving DecidableEq, Repr

/-- The errors of decoding a frame. -/
inductive RasterError
  /-- Samples or pixels of this depth cannot be unpacked. -/
  | unsupportedDepth (depth : Nat)
  /-- Palette entries `start`, …, `start + count - 1` exceed a limit. -/
  | paletteOverflow (start count limit : Nat)
  /-- Palette entries of less than three bytes. -/
  | narrowPaletteEntry
  /-- The source ended before all rows were there. -/
  | streamTruncated
  /-- A row repeat was asked for inside a row. -/
  | midRowRepeat (row column : Nat)
  /-- All rows are there and more bytes came. -/
  | rowsExhausted
  /-- A byte came for a row that is full and was refused. The program ends. -/
  | rowOverrun (row : Nat)
  /-- The consumer of the rows refused one. -/
  | rowRefused
  /-- So many bytes could not be allocated. -/
  | allocationFailure (bytes : Nat)
  /-- A size fits no word where none was checked for. The program ends. -/
  | overflow
  /-- A run-length sample outside 1 to 8 bytes. -/
  | invalidSampleSize (size : Nat)
  /-- Pixels of this depth are palette indices and there is no palette. -/
  | missingPalette (depth : Nat)
  /-- Pixels of so many components. -/
  | unsupportedComponents (count : Nat)
  /-- Frame and sink disagree. -/
  | dimensionMismatch (measure : Measure) (expected found : Nat)
  /-- A size beyond the address space. -/
  | tooLarge (extent : Extent) (limit found : Nat)
  /-- A frame or a row of no size. -/
  | zeroDimensions (width height : Nat)
  /-- The sink has no such row. -/
  | rowOutOfBounds (row rows : Nat)
  /-- The caller stopped the decoding. -/
  | stopped (reason : StopReason)
  /-- The source failed. -/
  | source (err : SourceError)
  deriving DecidableEq, Repr

/-- The name of a reason. -/
def StopReason.text : StopReason → String
  | .cancelled => "Cancelled"
  | .timedOut => "TimedOut"

/-- The name of a measure. -/
def Measure.text : Measure → String
  | .width => "width"
  | .height => "height"
  | .components => "components"
  | .rowLength => "row length"

/-- The name of an extent. -/
def Extent.text : Extent → String
  | .packedRow => "width"
  | .pixelBuffer => "pixel buffer"

namespace RasterError

/-- Whether the error aborts a frame after its rows were filled up, as
opposed to errors raised before a row was written and errors that leave
the rows as they are. -/
def abortsFrame : RasterError → Bool
  | midRowRepeat .. | invalidSampleSize _ => true
  | _ => false

/-- What becomes of a refused request for the memory of `count` items of
`size` bytes. The bytes to report are multiplied with no check. -/
def starved (count size : Nat) : RasterError :=
  match Size.mul? count size with
  | some bytes => .allocationFailure bytes
  | none => .overflow

/-- A number of bytes that fits a word is reported as it is. -/
theorem starved_of_lt {count size : Nat} (word : count * size < Size.limit) :
    starved count size = allocationFailure (count * size) := by
  unfold starved
  rw [Size.mul?_eq_some.mpr ⟨rfl, word⟩]

/-- Any other number ends the program. -/
theorem starved_of_le {count size : Nat} (large : Size.limit ≤ count * size) :
    starved count size = overflow := by
  unfold starved Size.mul?
  rw [if_neg (Nat.not_lt.mpr large)]

/-- The lines that describe an error. -/
def message : RasterError → String
  | unsupportedDepth depth => "Unsupported bits per pixel " ++ toString depth ++ "\n"
  | paletteOverflow start count limit =>
    "Palette overflow, start index " ++ toString start ++ " with " ++ toString count
      ++ " entries exceeds " ++ toString limit ++ "\n"
  | narrowPaletteEntry => "Palette entries need at least three bytes\n"
  | streamTruncated => "Stream ended before all rows were decoded\n"
  | midRowRepeat row column =>
    "Row repeat requested at row " ++ toString row ++ " with cursor at byte "
      ++ toString column ++ ", expected 0\n"
  | rowsExhausted => "All rows decoded\n"
  | rowOverrun row => "Row " ++ toString row ++ " is full\n"
  | rowRefused => "consumer refused the row\n"
  | allocationFailure bytes => "Could not allocate " ++ toString bytes ++ " bytes\n"
  | overflow => "A size does not fit a word\n"
  | invalidSampleSize size =>
    "Invalid sample size " ++ toString size ++ ", expected a value between 1 and 8\n"
  | missingPalette depth =>
    "A palette is required for depth " ++ toString depth ++ " but none was found\n"
  | unsupportedComponents count =>
    "Unsupported component count " ++ toString count ++ ", expected 1 to 4\n"
  | dimensionMismatch measure expected found =>
    "Mismatched " ++ measure.text ++ ", expected " ++ toString expected
      ++ " but found " ++ toString found ++ "\n"
  | tooLarge extent limit found =>
    "Too large dimensions for " ++ extent.text ++ " , " ++ toString found
      ++ " exceeds " ++ toString limit ++ "\n"
  | zeroDimensions width height =>
    "Zero sized dimensions, width " ++ toString width ++ " height "
      ++ toString height ++ "\n"
  | rowOutOfBounds row rows =>
    "Row " ++ toString row ++ " is out of bounds for an image with "
      ++ toString rows ++ " rows\n"
  | stopped reason => "Decoding stopped: " ++ reason.text ++ "\n"
  | source err => err.message ++ "\n"

end RasterError

end WpgRaster
