import WpgRaster.Source.Basic

/-!
# Object transforms

A bitmap of level two may be preceded by a record with the transform of
its rectangle. The record begins with sixteen flags, which tell what
follows. Numbers are signed 16.16 fixed point, or a whole part and a
fraction apart; they become single precision floating point numbers.

The only thing made of a transform is its `Orientation`: a negative scale
flips the bitmap over.
-/

namespace WpgRaster

/-- How a file wants a bitmap to be turned. Pixels are never changed. -/
structure Orientation where
  /-- Flipped left to right. -/
  flop : Bool := false
  /-- Flipped top to bottom. -/
  flip : Bool := false
  /-- Rotated by so many degrees. -/
  rotation : Nat := 0
  deriving DecidableEq, Repr

/-- The transform of a rectangle: flags, an angle and a matrix. -/
structure Transform where
  /-- What the record contained. -/
  flags : UInt16 := 0
  /-- The rotation, in degrees. -/
  angle : Float32 := 0
  /-- First row, first column. -/
  scaleX : Float32 := 1
  /-- First row, second column. -/
  skewX : Float32 := 0
  /-- First row, third column. -/
  shiftX : Float32 := 0
  /-- Second row, first column. -/
  skewY : Float32 := 0
  /-- Second row, second column. -/
  scaleY : Float32 := 1
  /-- Second row, third column. -/
  shiftY : Float32 := 0
  /-- Third row, first column. -/
  perspectiveX : Float32 := 0
  /-- Third row, second column. -/
  perspectiveY : Float32 := 0
  /-- Third row, third column. -/
  weight : Float32 := 1

namespace Transform

/-- The matrix, row by row. -/
def matrix (t : Transform) : List Float32 :=
  [t.scaleX, t.skewX, t.shiftX, t.skewY, t.scaleY, t.shiftY,
    t.perspectiveX, t.perspectiveY, t.weight]

/-- The orientation that negative scales stand for. -/
def orientation (t : Transform) : Orientation :=
  { flop := decide (t.scaleX < 0), flip := decide (t.scaleY < 0) }

/-- The number of parts that fractions are counted in. -/
def unit : Float32 := 65536

/-- The number written in 16.16 fixed point. -/
def fixedPoint (raw : UInt32) : Float32 := .ofInt raw.toInt32.toInt / unit

/-- The fraction written in 16 bits. -/
def fraction (raw : UInt16) : Float32 := .ofNat raw.toNat / unit

/-- A number from its whole part and a fraction that leads away from
zero. -/
def awayFromZero (whole : Int) (raw : UInt16) : Float32 :=
  if 0 ≤ whole then .ofInt whole + fraction raw else .ofInt whole - fraction raw

/-- The flags that something follows for. -/
inductive Flag
  /-- Perspective. -/
  | perspective
  /-- A shift. -/
  | shift
  /-- Skew. -/
  | skew
  /-- Scale. -/
  | scale
  /-- Rotation. -/
  | rotation
  /-- The number of an object. -/
  | objectId
  /-- A lock against changes. -/
  | editLock
  deriving DecidableEq, Repr

/-- The bit of a flag. -/
def Flag.bit : Flag → Nat
  | perspective => 0
  | shift => 1
  | skew => 2
  | scale => 3
  | rotation => 4
  | objectId => 5
  | editLock => 7

/-- Whether a flag is set. -/
def has (flags : UInt16) (flag : Flag) : Bool := flags.toNat.testBit flag.bit

section

variable {σ : Type} [ByteSource σ]

/-- Passes over the lock and the number of the object, which has 32 bits
when positions have a precision. -/
def skipIds (precision : UInt8) (flags : UInt16) (source : σ) : σ :=
  let source :=
    if has flags .editLock then (ByteSource.u32LE source).2 else source
  if has flags .objectId then
    if precision = 0 then (ByteSource.u16LE source).2 else (ByteSource.u32LE source).2
  else source

/-- Reads two fixed point numbers. -/
def readPair (source : σ) : (Float32 × Float32) × σ :=
  let (a, source) := ByteSource.u32LE source
  let (b, source) := ByteSource.u32LE source
  ((fixedPoint a, fixedPoint b), source)

/-- Reads a number with a whole part of 32 bits. -/
def readShift (source : σ) : Float32 × σ :=
  let (whole, source) := ByteSource.u32LE source
  let (part, source) := ByteSource.u16LE source
  (awayFromZero whole.toInt32.toInt part, source)

/-- Reads a number with a whole part of 16 bits. Here the fraction is
always added. -/
def readPerspective (source : σ) : Float32 × σ :=
  let (whole, source) := ByteSource.u16LE source
  let (part, source) := ByteSource.u16LE source
  (.ofInt whole.toInt16.toInt + fraction part, source)

/-- Reads a transform. -/
def read (precision : UInt8) (source : σ) : Transform × σ :=
  let (flags, source) := ByteSource.u16LE source
  let source := skipIds precision flags source
  let t : Transform := { flags }
  let (t, source) :=
    if has flags .rotation then
      let (angle, source) := ByteSource.u32LE source
      ({ t with angle := fixedPoint angle }, source)
    else (t, source)
  let (t, source) :=
    if has flags .rotation || has flags .scale then
      let ((scaleX, scaleY), source) := readPair source
      ({ t with scaleX, scaleY }, source)
    else (t, source)
  let (t, source) :=
    if has flags .rotation || has flags .skew then
      let ((skewY, skewX), source) := readPair source
      ({ t with skewX, skewY }, source)
    else (t, source)
  let (t, source) :=
    if has flags .shift then
      let (shiftX, source) := readShift source
      let (shiftY, source) := readShift source
      ({ t with shiftX, shiftY }, source)
    else (t, source)
  if has flags .perspective then
    let (perspectiveX, source) := readPerspective source
    let (perspectiveY, source) := readPerspective source
    ({ t with perspectiveX, perspectiveY }, source)
  else (t, source)

end

end Transform

end WpgRaster
