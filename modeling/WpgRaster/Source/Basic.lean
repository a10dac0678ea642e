import WpgRaster.Size
import WpgRaster.Source.Error

/-!
# Byte sources

Decoding reads bytes from a *source*: something that has a position, can
be asked for the next bytes and can be moved. `ByteSource` collects what
a source must offer; everything else here is built on top of it and is
therefore the same for every source.

Reads come in two kinds. An *exact* read delivers all the bytes asked for
or fails, and a failed one leaves the position alone. A *zero-filled*
read never fails: a source that has too few bytes left is exhausted and
the whole answer is zeros. Records of the formats decoded here are read
with the second kind, so a file that ends inside a record has a defined
content.
-/

namespace WpgRaster

/-- Where a seek is measured from. Positions beyond the end are allowed. -/
inductive SeekTarget
  /-- An absolute position. -/
  | start (position : Nat)
  /-- A position relative to the end. -/
  | fromEnd (offset : Int)
  /-- A position relative to the present one. -/
  | current (offset : Int)
  deriving DecidableEq, Repr

/-- Bytes in the order they were read. -/
abbrev Bytes := Array UInt8

/-- A computation on a source that may fail; the source it leaves behind
is known in both cases. -/
abbrev SourceM (σ α : Type) := EStateM SourceError σ α

/-- What a source of bytes offers. -/
class ByteSource (σ : Type) where
  /-- How many bytes the source holds. A loop that consumes a byte a turn
  takes no more turns than this. -/
  size : σ → Nat
  /-- The present position, which may lie beyond the end. -/
  position : σ → Nat
  /-- Whether no byte is left at the present position. -/
  atEnd : σ → Except SourceError Bool
  /-- The next byte, or 0 if there is none. -/
  nextOrZero : σ → UInt8 × σ
  /-- The next `count` bytes, or `count` zeros and an exhausted source if
  fewer are left. -/
  takeOrZeros (count : Nat) : σ → Bytes × σ
  /-- The next `count` bytes; fails without moving if fewer are left. -/
  take (count : Nat) : SourceM σ Bytes
  /-- Some of the next `limit` bytes, none only if there are none. -/
  takeUpTo (limit : Nat) : SourceM σ Bytes
  /-- Moves to a target and answers the new position. -/
  seek (target : SeekTarget) : SourceM σ Nat

/-- The number whose bytes are given, least significant byte first. -/
def Bytes.littleEndian (bytes : Bytes) : Nat :=
  bytes.toList.foldr (fun byte rest => byte.toNat + 256 * rest) 0

/-- The number whose bytes are given, most significant byte first. -/
def Bytes.bigEndian (bytes : Bytes) : Nat :=
  bytes.toList.foldl (fun acc byte => 256 * acc + byte.toNat) 0

namespace ByteSource

variable {σ : Type} [ByteSource σ]

/-! ## Moving -/

/-- Distances are signed 64-bit numbers. -/
def distance (count : Nat) : SourceM σ Int := fun source =>
  if count < Size.signedLimit then .ok count source else .error .outOfRange source

/-- Moves forward. -/
def skip (count : Nat) : SourceM σ Nat := do
  seek (.current (← distance count))

/-- Moves backward. -/
def rewind (count : Nat) : SourceM σ Nat := do
  seek (.current (-(← distance count)))

/-- Moves to an absolute position. -/
def setPosition (position : Nat) : SourceM σ Unit := do
  let _ ← seek (.start position)

/-- The length of the source, found by seeking to its end and back. -/
def length : SourceM σ Nat := do
  let here := position (← get)
  let len ← seek (.fromEnd 0)
  unless here = len do
    let _ ← seek (.start here)
  return len

/-! ## Exact reads -/

/-- The next byte. -/
def next : SourceM σ UInt8 := do
  return (← take 1)[0]?.getD 0

/-- The next 16-bit number, least significant byte first. -/
def nextU16LE : SourceM σ UInt16 := do
  return (← take 2).littleEndian.toUInt16

/-- The next 16-bit number, most significant byte first. -/
def nextU16BE : SourceM σ UInt16 := do
  return (← take 2).bigEndian.toUInt16

/-- The next 32-bit number, least significant byte first. -/
def nextU32LE : SourceM σ UInt32 := do
  return (← take 4).littleEndian.toUInt32

/-- The next 32-bit number, most significant byte first. -/
def nextU32BE : SourceM σ UInt32 := do
  return (← take 4).bigEndian.toUInt32

/-! ## Zero-filled reads -/

/-- The next 16-bit number, least significant byte first, or 0. -/
def u16LE (source : σ) : UInt16 × σ :=
  let (bytes, source) := takeOrZeros 2 source
  (bytes.littleEndian.toUInt16, source)

/-- The next 16-bit number, most significant byte first, or 0. -/
def u16BE (source : σ) : UInt16 × σ :=
  let (bytes, source) := takeOrZeros 2 source
  (bytes.bigEndian.toUInt16, source)

/-- The next 32-bit number, least significant byte first, or 0. -/
def u32LE (source : σ) : UInt32 × σ :=
  let (bytes, source) := takeOrZeros 4 source
  (bytes.littleEndian.toUInt32, source)

/-- The next 32-bit number, most significant byte first, or 0. -/
def u32BE (source : σ) : UInt32 × σ :=
  let (bytes, source) := takeOrZeros 4 source
  (bytes.bigEndian.toUInt32, source)

end ByteSource

end WpgRaster
