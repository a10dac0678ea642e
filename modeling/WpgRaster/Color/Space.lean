import WpgRaster.Size

/-!
# Colour spaces and sample depths

What a row of samples means: how many samples make a pixel and which of
them is which (`ColorSpace`), and how wide a sample is (`SampleDepth`).
Both have a written form in image descriptions, their `Label`.
-/

namespace WpgRaster

/-- The written form of a description: a name or a number. -/
inductive Label
  /-- A name. -/
  | name (text : String)
  /-- A number. -/
  | number (value : Nat)
  deriving DecidableEq, Repr

/-- The colour spaces rows are delivered in. -/
inductive ColorSpace
  /-- Red, green, blue. -/
  | rgb
  /-- Red, green, blue, alpha. -/
  | rgba
  /-- Gray. -/
  | luma
  /-- Gray, alpha. -/
  | lumaA
  /-- Not known. -/
  | unknown
  deriving DecidableEq, Repr

namespace ColorSpace

/-- How many samples make a pixel. -/
def components : ColorSpace → Nat
  | rgb => 3
  | rgba => 4
  | luma => 1
  | lumaA => 2
  | unknown => 0

/-- Whether the last sample of a pixel is its alpha. -/
def hasAlpha : ColorSpace → Bool
  | rgba | lumaA => true
  | _ => false

/-- Whether the colours are gray levels. -/
def isGrayscale : ColorSpace → Bool
  | luma | lumaA => true
  | _ => false

/-- The name of a colour space. -/
def name : ColorSpace → String
  | rgb => "RGB"
  | rgba => "RGBA"
  | luma => "Luma"
  | lumaA => "LumaA"
  | unknown => "Unknown"

/-- A colour space is written as its name. -/
def label (space : ColorSpace) : Label := .name space.name

end ColorSpace

/-- How wide one decoded sample is. -/
inductive SampleDepth
  /-- Samples from 0 to 255. -/
  | eight
  /-- Samples from 0 to 65535. -/
  | sixteen
  /-- Not known. -/
  | unknown
  deriving DecidableEq, Repr

namespace SampleDepth

/-- Bits in a sample, 0 if not known. -/
def bits : SampleDepth → Nat
  | eight => 8
  | sixteen => 16
  | unknown => 0

/-- The largest sample, which full intensity is mapped to. -/
def maxValue (depth : SampleDepth) : Nat := Size.values depth.bits - 1

/-- Bytes that store a sample, if the depth is known. -/
def bytes? : SampleDepth → Option Nat
  | eight => some 1
  | sixteen => some 2
  | unknown => none

/-- A known depth is written as its number of bits. -/
def label (depth : SampleDepth) : Label :=
  match depth.bits with
  | 0 => .name "Unknown"
  | bits => .number bits

end SampleDepth

end WpgRaster
