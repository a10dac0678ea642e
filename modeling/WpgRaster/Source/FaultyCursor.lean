import WpgRaster.Source.Cursor

/-!
# Cursors with faults

A `FaultyCursor` is a cursor with chosen defects: bytes that cannot be
read from some position on, deliveries of limited size, an end that
cannot be recognised and an end that cannot be sought from. Without any
of them it behaves as the cursor does.
-/

namespace WpgRaster

/-- A cursor and its defects. -/
structure FaultyCursor where
  /-- The cursor. -/
  cursor : Cursor
  /-- The position of the first byte that cannot be read. -/
  brokenFrom : Option Nat := none
  /-- The largest number of bytes delivered at once by a partial read. -/
  chunk : Option Nat := none
  /-- Whether asking for the end fails. -/
  endUnknown : Bool := false
  /-- Whether seeking relative to the end fails. -/
  endUnseekable : Bool := false
  deriving DecidableEq, Repr

namespace FaultyCursor

/-- Whether the next `count` bytes include one that cannot be read. -/
def touchesFault (source : FaultyCursor) (count : Nat) : Bool :=
  match source.brokenFrom with
  | none => false
  | some first => first < source.cursor.position + count

/-- Runs a cursor operation, keeping the defects. -/
def onCursor {α : Type} (op : SourceM Cursor α) : SourceM FaultyCursor α :=
  fun source =>
    match op source.cursor with
    | .ok a cursor => .ok a { source with cursor }
    | .error err cursor => .error err { source with cursor }

/-- The next byte, or 0 if it is broken or missing. -/
def nextOrZero (source : FaultyCursor) : UInt8 × FaultyCursor :=
  if source.touchesFault 1 then (0, source)
  else
    let (byte, cursor) := source.cursor.nextOrZero
    (byte, { source with cursor })

/-- The next `count` bytes, or zeros. A broken byte keeps the position. -/
def takeOrZeros (count : Nat) (source : FaultyCursor) : Bytes × FaultyCursor :=
  if source.touchesFault count then (Array.replicate count 0, source)
  else
    let (bytes, cursor) := source.cursor.takeOrZeros count
    (bytes, { source with cursor })

/-- The next `count` bytes; a broken one among them fails the read. -/
def take (count : Nat) : SourceM FaultyCursor Bytes := fun source =>
  if source.touchesFault count then .error (.broken .unreadable) source
  else onCursor (Cursor.take count) source

/-- How many of `limit` bytes one partial read may deliver. -/
def quota (source : FaultyCursor) (limit : Nat) : Nat :=
  let limit := (source.chunk.map (min limit)).getD limit
  (source.brokenFrom.map fun first => min limit (first - source.cursor.position)).getD limit

/-- Some of the next `limit` bytes, up to the first broken one. -/
def takeUpTo (limit : Nat) : SourceM FaultyCursor Bytes := fun source =>
  if source.touchesFault 1 then .error (.broken .unreadable) source
  else onCursor (Cursor.takeUpTo (source.quota limit)) source

/-- Moves to a target, unless it is relative to an end out of reach. -/
def seek (target : SeekTarget) : SourceM FaultyCursor Nat := fun source =>
  match target, source.endUnseekable with
  | .fromEnd _, true => .error (.seek .noEnd) source
  | _, _ => onCursor (Cursor.seek target) source

instance : ByteSource FaultyCursor where
  size source := source.cursor.bytes.size
  position source := source.cursor.position
  atEnd source :=
    if source.endUnknown then .error (.broken .endUnknown) else .ok source.cursor.atEnd
  nextOrZero := nextOrZero
  takeOrZeros := takeOrZeros
  take := take
  takeUpTo := takeUpTo
  seek := seek

end FaultyCursor

end WpgRaster
