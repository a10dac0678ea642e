import WpgRaster.Container.Error
import WpgRaster.Container.Transform
import WpgRaster.Frame.Format

/-!
# Bitmap records

A bitmap record begins with the size and the depth of the bitmap; behind
them comes its raster. There are three forms. Level one has plain bitmaps
and bitmaps that are placed on a page, both compressed by run lengths of
the first generation. Level two writes depth and compression as codes;
bitmaps with a code that is not known are passed over.
-/

namespace WpgRaster

/-- Units in a centimetre. -/
def unitsPerCm : Nat := 470

/-- The resolution of a bitmap, in pixels per so many units. -/
structure Resolution where
  /-- From left to right. -/
  horizontal : UInt16
  /-- From top to bottom. -/
  vertical : UInt16
  deriving DecidableEq, Repr

namespace Resolution

/-- The resolution, which is only known if it is in both directions. -/
def ofWords (horizontal vertical : UInt16) : Option Resolution :=
  if horizontal = 0 ∨ vertical = 0 then none else some ⟨horizontal, vertical⟩

/-- Pixels per centimetre, in both directions. -/
def perCm (res : Resolution) : Float × Float :=
  let scale (words : UInt16) : Float := .ofNat words.toNat / .ofNat unitsPerCm
  (scale res.horizontal, scale res.vertical)

end Resolution

/-- Where a bitmap is placed on its page, in whole centimetres. All four
numbers are derived from the left edge; a negative size counts as 0. -/
structure Placement where
  /-- Width of the place. -/
  width : Nat
  /-- Height of the place. -/
  height : Nat
  /-- Distance from the left. -/
  x : Nat
  /-- Distance from the bottom. -/
  y : Nat
  deriving DecidableEq, Repr

/-- The placement of a bitmap with the given left, right and top edges. -/
def Placement.ofEdges (left right top : UInt16) : Placement :=
  { width := (left.toNat - right.toNat) / unitsPerCm
    height := (left.toNat - top.toNat) / unitsPerCm
    x := left.toNat / unitsPerCm
    y := left.toNat / unitsPerCm }

/-- The orientation of a placed bitmap: two flip bits and an angle. -/
def Orientation.ofWord (word : UInt16) : Orientation :=
  { flop := word.toNat.testBit 15
    flip := word.toNat.testBit 13
    rotation := word.toNat % 0x1000 }

/-- What is known about a bitmap before its raster is read. -/
structure Bitmap where
  /-- The type of its record. -/
  recordType : UInt8
  /-- Pixels in a row. -/
  width : Nat
  /-- The number of rows. -/
  height : Nat
  /-- Bits of a pixel. -/
  depth : Nat
  /-- How the raster is stored. -/
  compression : Compression
  /-- Its resolution. -/
  resolution : Option Resolution
  /-- Its place on the page. -/
  placement : Option Placement
  /-- How it is turned. -/
  orientation : Orientation
  deriving DecidableEq, Repr

/-- The type of plain bitmaps of level one. -/
def plainBitmapType : UInt8 := 0x0B

/-- The type of placed bitmaps of level one. -/
def placedBitmapType : UInt8 := 0x14

/-- The type of bitmaps of level two. -/
def codedBitmapType : UInt8 := 0x0E

namespace Bitmap

/-- What the samples of a bitmap stand for. -/
def modelOf (depth : Nat) : ColorModel :=
  match depth with
  | 24 => .direct
  | 16 => .gray
  | _ => .indexed

/-- The colour space a bitmap is decoded to, if its depth is supported. -/
def colorSpace? (bitmap : Bitmap) : Option ColorSpace :=
  (colorSpaceOf bitmap.depth (modelOf bitmap.depth)).toOption

/-- The format of the raster, with the colormap to decode it with. -/
def format (bitmap : Bitmap) (colormap : Option Palette) : FrameFormat :=
  FrameFormat.withCompression
    { columns := bitmap.width
      rows := bitmap.height
      depth := bitmap.depth
      model := modelOf bitmap.depth
      palette := colormap } bitmap.compression

/-- The compression of a code. -/
def compressionOf (code : UInt8) : Option Compression :=
  match code with
  | 0 => some .none
  | 1 => some .second
  | _ => none

/-- The depth of a code. -/
def depthOf (code : UInt8) : Option Nat :=
  match code with
  | 1 => some 1
  | 2 => some 2
  | 3 => some 4
  | 4 => some 8
  | 8 => some 24
  | _ => none

variable {σ : Type} [ByteSource σ]

/-- Reads a 16-bit number. -/
def word : EStateM WpgError σ UInt16 := modifyGet ByteSource.u16LE

/-- Reads a byte. -/
def byte : EStateM WpgError σ UInt8 := modifyGet ByteSource.nextOrZero

/-- Reads width and height, neither of which may be 0. -/
def readSize : EStateM WpgError σ (Nat × Nat) := do
  let width ← word
  let height ← word
  if width = 0 ∨ height = 0 then throw (.improperRecord .zeroBitmap)
  return (width.toNat, height.toNat)

/-- Reads a plain bitmap of level one. -/
def readPlain : EStateM WpgError σ Bitmap := do
  let (width, height) ← readSize
  let depth ← word
  let horizontal ← word
  let vertical ← word
  return {
    recordType := plainBitmapType, width, height, depth := depth.toNat
    compression := .first
    resolution := Resolution.ofWords horizontal vertical
    placement := none
    orientation := {} }

/-- Reads a placed bitmap of level one. -/
def readPlaced : EStateM WpgError σ Bitmap := do
  let turn ← word
  let left ← word
  let _bottom ← word
  let right ← word
  let top ← word
  let (width, height) ← readSize
  let depth ← word
  let horizontal ← word
  let vertical ← word
  return {
    recordType := placedBitmapType, width, height, depth := depth.toNat
    compression := .first
    resolution := Resolution.ofWords horizontal vertical
    placement := some (.ofEdges left right top)
    orientation := .ofWord turn }

/-- Reads a bitmap of level two, if its codes are known. -/
def readCoded (transform : Transform) : EStateM WpgError σ (Option Bitmap) := do
  let (width, height) ← readSize
  let depthCode ← byte
  let compressionCode ← byte
  match compressionOf compressionCode, depthOf depthCode with
  | some compression, some depth =>
    return some {
      recordType := codedBitmapType, width, height, depth, compression
      resolution := none
      placement := none
      orientation := transform.orientation }
  | _, _ => return none

end Bitmap

end WpgRaster
