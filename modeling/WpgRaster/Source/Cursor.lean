import WpgRaster.Source.Basic

/-!
# Cursors

A `Cursor` is the plain source: an array of bytes and a position in it.
Its seeks are computed in signed 64-bit arithmetic, so a base or a target
that is no such number is refused; the same rule then serves sources that
add faults to a cursor.
-/

namespace WpgRaster

/-- Bytes in memory and a position, which may lie beyond the last byte. -/
structure Cursor where
  /-- The bytes. -/
  bytes : Bytes
  /-- The position. -/
  position : Nat
  deriving DecidableEq, Repr

namespace Cursor

/-- A cursor on the first byte. -/
def ofBytes (bytes : Bytes) : Cursor := ⟨bytes, 0⟩

/-- How many bytes are left. -/
def remaining (cursor : Cursor) : Nat := cursor.bytes.size - cursor.position

/-- The next `count` bytes, fewer at the end. -/
def peek (cursor : Cursor) (count : Nat) : Bytes :=
  cursor.bytes.extract cursor.position (cursor.position + count)

/-- The cursor `count` positions further on. -/
def advance (cursor : Cursor) (count : Nat) : Cursor :=
  { cursor with position := cursor.position + count }

/-- The cursor with no byte left; one beyond the end stays there. -/
def exhaust (cursor : Cursor) : Cursor :=
  { cursor with position := max cursor.position cursor.bytes.size }

/-- The next byte, if there is one, or 0. -/
def nextOrZero (cursor : Cursor) : UInt8 × Cursor :=
  match cursor.bytes[cursor.position]? with
  | some byte => (byte, cursor.advance 1)
  | none => (0, cursor)

/-- The next `count` bytes, or zeros and an exhausted cursor. -/
def takeOrZeros (count : Nat) (cursor : Cursor) : Bytes × Cursor :=
  if count ≤ cursor.remaining then (cursor.peek count, cursor.advance count)
  else (Array.replicate count 0, cursor.exhaust)

/-- The next `count` bytes, all of them or none. -/
def take (count : Nat) : SourceM Cursor Bytes := fun cursor =>
  if count ≤ cursor.remaining then .ok (cursor.peek count) (cursor.advance count)
  else .error (.shortRead count cursor.remaining) cursor

/-- As many of the next `limit` bytes as are left. -/
def takeUpTo (limit : Nat) : SourceM Cursor Bytes := fun cursor =>
  .ok (cursor.peek limit) (cursor.advance (min limit cursor.remaining))

/-- The position `offset` away from `base`, in signed 64-bit arithmetic. -/
def offsetFrom (base : Nat) (offset : Int) : Except SourceError Nat :=
  if Size.signedLimit ≤ base then .error .outOfRange
  else if base + offset < -Size.signedLimit ∨ Size.signedLimit ≤ base + offset then
    .error (.seek .overflow)
  else if base + offset < 0 then .error (.seek .beforeStart)
  else .ok (base + offset).toNat

/-- Where a seek leads. -/
def locate (cursor : Cursor) : SeekTarget → Except SourceError Nat
  | .start position => .ok position
  | .fromEnd offset => offsetFrom cursor.bytes.size offset
  | .current offset => offsetFrom cursor.position offset

/-- Moves to a target. -/
def seek (target : SeekTarget) : SourceM Cursor Nat := fun cursor =>
  match cursor.locate target with
  | .ok position => .ok position { cursor with position }
  | .error err => .error err cursor

/-- A cursor is at its end when no byte is left. -/
def atEnd (cursor : Cursor) : Bool := cursor.bytes.size ≤ cursor.position

/-- A read delivers what is asked for as far as it is there. -/
@[simp] theorem size_peek (cursor : Cursor) (count : Nat) :
    (cursor.peek count).size = min count cursor.remaining := by
  simp only [peek, remaining, Array.size_extract]
  omega

/-- Moving on by bytes that are left leaves as many fewer. -/
theorem remaining_advance (cursor : Cursor) (count : Nat) :
    (cursor.advance count).remaining = cursor.remaining - count := by
  simp only [advance, remaining]
  omega

/-- An exhausted cursor has no byte left. -/
@[simp] theorem remaining_exhaust (cursor : Cursor) : cursor.exhaust.remaining = 0 := by
  simp only [exhaust, remaining]
  omega

/-- The end is where nothing is left. -/
theorem atEnd_iff (cursor : Cursor) : cursor.atEnd = true ↔ cursor.remaining = 0 := by
  simp only [atEnd, remaining, decide_eq_true_eq]
  omega

instance : ByteSource Cursor where
  size cursor := cursor.bytes.size
  position := position
  atEnd cursor := .ok cursor.atEnd
  nextOrZero := nextOrZero
  takeOrZeros := takeOrZeros
  take := take
  takeUpTo := takeUpTo
  seek := seek

end Cursor

end WpgRaster
