import WpgRaster.Source.ByteStream

/-!
# Handles

A byte stream is what an operating system's handle looks like from outside. This is what
such a handle does: it offers reads and seeks of its own conventions, and the reads of a
source are built on top of these.

An exact read of a handle that comes up short has consumed what there was. So a handle is
asked first where it stands, and is moved back there behind a failed read
(`Handle.takeOrRestore`).

A `FileHandle` reads straight from the bytes. A `BufferedHandle` reads ahead: it asks the
handle below for as many bytes as its buffer holds, and hands out what it has before it
asks for more. Where it stands is therefore in front of where the handle below stands, and a
seek drops the bytes that were read ahead. Even the question whether the end was reached
may fill the buffer.
-/

namespace WpgRaster

/-- What handles offer: they know where they stand, exact reads and seeks. A failed read
may leave them anywhere. -/
class Handle (ρ : Type) where
  /-- Where the handle stands. -/
  tell : ρ → Nat
  /-- The next `count` bytes. -/
  readExact (count : Nat) : SourceM ρ Bytes
  /-- Moves to a target and answers the new position. -/
  seek (target : SeekTarget) : SourceM ρ Nat

namespace Handle

variable {ρ : Type} [Handle ρ]

/-- The next `count` bytes. If there are too few, the handle is moved back. -/
def takeOrRestore (count : Nat) : SourceM ρ Bytes := fun handle =>
  match readExact count handle with
  | .ok bytes handle => .ok bytes handle
  | .error err moved =>
    match seek (.start (tell handle)) moved with
    | .ok _ handle => .error err handle
    | .error err handle => .error err handle

/-- The next byte, or 0 behind a failed read. The handle is not moved back. -/
def nextOrZero (handle : ρ) : UInt8 × ρ :=
  match readExact 1 handle with
  | .ok bytes handle => (bytes[0]?.getD 0, handle)
  | .error _ handle => (0, handle)

end Handle

/-! ## Straight from the bytes -/

/-- A handle of bytes in memory. -/
structure FileHandle where
  /-- The bytes and the position in them. -/
  cursor : Cursor
  deriving DecidableEq, Repr

namespace FileHandle

/-- A handle on the first byte. -/
def ofBytes (bytes : Bytes) : FileHandle := ⟨.ofBytes bytes⟩

/-- As many of the next `count` bytes as are left. -/
def read (count : Nat) (handle : FileHandle) : Bytes × FileHandle :=
  (handle.cursor.peek count, ⟨handle.cursor.advance (min count handle.cursor.remaining)⟩)

/-- The next `count` bytes. If there are too few, the handle is at its end. -/
def readExact (count : Nat) : SourceM FileHandle Bytes := fun ⟨cursor⟩ =>
  if count ≤ cursor.remaining then .ok (cursor.peek count) ⟨cursor.advance count⟩
  else .error (.stream .unfilled) ⟨{ cursor with position := cursor.bytes.size }⟩

/-- Where a seek leads. -/
def locate (handle : FileHandle) : SeekTarget → Except SourceError Nat
  | .start position => .ok position
  | .fromEnd offset => ByteStream.offsetFrom handle.cursor.bytes.size offset
  | .current offset => ByteStream.offsetFrom handle.cursor.position offset

/-- Moves to a target. -/
def seek (target : SeekTarget) : SourceM FileHandle Nat := fun handle =>
  match handle.locate target with
  | .ok position => .ok position ⟨{ handle.cursor with position }⟩
  | .error err => .error err handle

instance : Handle FileHandle where
  tell handle := handle.cursor.position
  readExact := readExact
  seek := seek

/-- The next `count` bytes, or zeros and an exhausted handle. -/
def takeOrZeros (count : Nat) (handle : FileHandle) : Bytes × FileHandle :=
  match Handle.takeOrRestore count handle with
  | .ok bytes handle => (bytes, handle)
  | .error _ handle => (Array.replicate count 0, ⟨handle.cursor.exhaust⟩)

instance : ByteSource FileHandle where
  size handle := handle.cursor.bytes.size
  position handle := handle.cursor.position
  atEnd handle := .ok handle.cursor.atEnd
  nextOrZero := Handle.nextOrZero
  takeOrZeros := takeOrZeros
  take := Handle.takeOrRestore
  takeUpTo limit := modifyGet (read limit)
  seek := seek

end FileHandle

/-! ## Through a buffer -/

/-- A handle that reads ahead. -/
structure BufferedHandle where
  /-- The handle below. -/
  inner : FileHandle
  /-- Bytes that were read ahead. -/
  ahead : Bytes := #[]
  deriving DecidableEq, Repr

namespace BufferedHandle

/-- How many bytes a buffer holds. -/
def capacity : Nat := 8192

/-- A handle on the first byte, of which nothing was read yet. -/
def ofBytes (bytes : Bytes) : BufferedHandle := { inner := .ofBytes bytes }

/-- Reads ahead if the buffer is empty. -/
def fill (handle : BufferedHandle) : BufferedHandle :=
  if handle.ahead.isEmpty then
    let (ahead, inner) := handle.inner.read capacity
    { inner, ahead }
  else handle

/-- The handle behind `count` bytes of its buffer. -/
def consume (count : Nat) (handle : BufferedHandle) : BufferedHandle :=
  { handle with ahead := handle.ahead.extract count }

/-- Some of the next `count` bytes: what the buffer has, once it is filled. A large read
does not go through an empty buffer. -/
def read (count : Nat) (handle : BufferedHandle) : Bytes × BufferedHandle :=
  if handle.ahead.isEmpty ∧ capacity ≤ count then
    let (bytes, inner) := handle.inner.read count
    (bytes, { handle with inner })
  else
    let handle := handle.fill
    (handle.ahead.extract 0 count, handle.consume count)

/-- Adds up to `need` bytes to those there, in as many reads as it takes, but at most
`fuel`. Only a read of nothing means that the handle is at its end. -/
def readRounds : (fuel need : Nat) → Bytes → BufferedHandle → Bytes × BufferedHandle
  | 0, _, bytes, handle => (bytes, handle)
  | fuel + 1, need, bytes, handle =>
    if need = 0 then (bytes, handle)
    else
      let (chunk, handle) := handle.read need
      if chunk.isEmpty then (bytes, handle)
      else readRounds fuel (need - chunk.size) (bytes ++ chunk) handle

/-- The next `count` bytes: from the buffer if it has them, in several reads otherwise.
If there are too few, they are consumed. -/
def readExact (count : Nat) : SourceM BufferedHandle Bytes := fun handle =>
  if count ≤ handle.ahead.size then .ok (handle.ahead.extract 0 count) (handle.consume count)
  else
    let (bytes, handle) := handle.readRounds count count #[]
    if bytes.size < count then .error (.stream .unfilled) handle else .ok bytes handle

/-- Where the handle stands: in front of what was read ahead. -/
def tell (handle : BufferedHandle) : Nat := handle.inner.cursor.position - handle.ahead.size

/-- Moves the handle below to a target, and drops what was read ahead if that goes
well. -/
def seekInner (target : SeekTarget) : SourceM BufferedHandle Nat := fun handle =>
  match handle.inner.seek target with
  | .ok position inner => .ok position { inner }
  | .error err inner => .error err { handle with inner }

/-- Moves to a target. What is measured from the present position is measured from that of
the handle below. If this distance is no signed 64-bit number, then the handle below is
moved back first. -/
def seek (target : SeekTarget) : SourceM BufferedHandle Nat := fun handle =>
  match target with
  | .current offset =>
    if -Size.signedLimit ≤ offset - handle.ahead.size then
      seekInner (.current (offset - handle.ahead.size)) handle
    else
      (do
        let _ ← seekInner (.current (-handle.ahead.size))
        seekInner (.current offset) : SourceM BufferedHandle Nat) handle
  | _ => seekInner target handle

instance : Handle BufferedHandle where
  tell := tell
  readExact := readExact
  seek := seek

/-- Consumes all bytes, buffer by buffer, but at most `fuel` of them. -/
def drain : (fuel : Nat) → BufferedHandle → BufferedHandle
  | 0, handle => handle
  | fuel + 1, handle =>
    let handle := handle.fill
    if handle.ahead.isEmpty then handle else drain fuel (handle.consume handle.ahead.size)

/-- The next `count` bytes, or zeros, and then the handle is moved to its end, or drained
if it cannot be moved there. -/
def takeOrZeros (count : Nat) (handle : BufferedHandle) : Bytes × BufferedHandle :=
  match Handle.takeOrRestore count handle with
  | .ok bytes handle => (bytes, handle)
  | .error _ handle =>
    match seek (.fromEnd 0) handle with
    | .ok _ handle => (Array.replicate count 0, handle)
    | .error _ handle =>
      (Array.replicate count 0, handle.drain (handle.inner.cursor.bytes.size + 1))

instance : ByteSource BufferedHandle where
  size handle := handle.inner.cursor.bytes.size
  position := tell
  atEnd handle := .ok handle.fill.ahead.isEmpty
  nextOrZero := Handle.nextOrZero
  takeOrZeros := takeOrZeros
  take := Handle.takeOrRestore
  takeUpTo limit := modifyGet (read limit)
  seek := seek

end BufferedHandle

end WpgRaster
