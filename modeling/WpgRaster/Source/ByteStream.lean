import WpgRaster.Source.Cursor

/-!
# Byte streams

A `ByteStream` is a cursor that follows the conventions of a file handle.
It differs from a plain `Cursor` in three ways: positions are unsigned
64-bit numbers and seeks are checked against them, a failed exact read is
reported as an unfilled buffer whatever was left, and what happens beyond
the end depends on the buffering.

* Without a buffer, a zero-filled read beyond the end stays where it is
  but a single byte read there falls back to the end.
* With a buffer, a zero-filled read that comes up short leaves the stream
  at its end exactly, by a seek. A stream that cannot seek from its end is
  drained instead, which moves it to the end but never back to it.
-/

namespace WpgRaster

/-- How a stream hands out its bytes. -/
inductive Buffering
  /-- Straight from the bytes. -/
  | direct
  /-- Through a buffer. -/
  | buffered
  /-- Through a buffer, over a stream that does not know its end. -/
  | bufferedUnbounded
  deriving DecidableEq, Repr

/-- A cursor with the conventions of a file handle. -/
structure ByteStream where
  /-- The bytes and the position in them. -/
  cursor : Cursor
  /-- How the bytes are handed out. -/
  buffering : Buffering
  deriving DecidableEq, Repr

namespace ByteStream

/-- A stream at its first byte. -/
def ofBytes (bytes : Bytes) (buffering : Buffering) : ByteStream :=
  ⟨.ofBytes bytes, buffering⟩

/-- The stream at another position. -/
def moveTo (stream : ByteStream) (position : Nat) : ByteStream :=
  { stream with cursor := { stream.cursor with position } }

/-- The stream `count` positions further on. -/
def advance (stream : ByteStream) (count : Nat) : ByteStream :=
  { stream with cursor := stream.cursor.advance count }

/-- The stream with no byte left, as a short zero-filled read leaves it. -/
def exhaust (stream : ByteStream) : ByteStream :=
  match stream.buffering with
  | .direct | .bufferedUnbounded => { stream with cursor := stream.cursor.exhaust }
  | .buffered => stream.moveTo stream.cursor.bytes.size

/-- The next byte, or 0 at the end. -/
def nextOrZero (stream : ByteStream) : UInt8 × ByteStream :=
  match stream.cursor.bytes[stream.cursor.position]?, stream.buffering with
  | some byte, _ => (byte, stream.advance 1)
  | none, .direct => (0, stream.moveTo stream.cursor.bytes.size)
  | none, _ => (0, stream)

/-- The next `count` bytes, or zeros and an exhausted stream. -/
def takeOrZeros (count : Nat) (stream : ByteStream) : Bytes × ByteStream :=
  if count ≤ stream.cursor.remaining then
    (stream.cursor.peek count, stream.advance count)
  else (Array.replicate count 0, stream.exhaust)

/-- The next `count` bytes, all of them or none. -/
def take (count : Nat) : SourceM ByteStream Bytes := fun stream =>
  if count ≤ stream.cursor.remaining then
    .ok (stream.cursor.peek count) (stream.advance count)
  else .error (.stream .unfilled) stream

/-- As many of the next `limit` bytes as are left. -/
def takeUpTo (limit : Nat) : SourceM ByteStream Bytes := fun stream =>
  .ok (stream.cursor.peek limit) (stream.advance (min limit stream.cursor.remaining))

/-- The position `offset` away from `base`, in unsigned 64-bit arithmetic. -/
def offsetFrom (base : Nat) (offset : Int) : Except SourceError Nat :=
  if base + offset < 0 ∨ Size.limit ≤ base + offset then .error (.stream .invalidSeek)
  else .ok (base + offset).toNat

/-- Where a seek leads. -/
def locate (stream : ByteStream) : SeekTarget → Except SourceError Nat
  | .start position => .ok position
  | .fromEnd offset =>
    if stream.buffering = .bufferedUnbounded then .error (.stream .noEnd)
    else offsetFrom stream.cursor.bytes.size offset
  | .current offset => offsetFrom stream.cursor.position offset

/-- Moves to a target. -/
def seek (target : SeekTarget) : SourceM ByteStream Nat := fun stream =>
  match stream.locate target with
  | .ok position => .ok position (stream.moveTo position)
  | .error err => .error err stream

instance : ByteSource ByteStream where
  size stream := stream.cursor.bytes.size
  position stream := stream.cursor.position
  atEnd stream := .ok stream.cursor.atEnd
  nextOrZero := nextOrZero
  takeOrZeros := takeOrZeros
  take := take
  takeUpTo := takeUpTo
  seek := seek

end ByteStream

end WpgRaster
