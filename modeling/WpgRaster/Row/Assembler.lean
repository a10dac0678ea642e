import WpgRaster.Frame.Error
import WpgRaster.Size
import WpgRaster.Source.Basic

/-!
# Row assembly

Decoded bytes arrive one after another and make up rows of a fixed number
of bytes. A `RowAssembler` collects them; when a row is full it goes to a
`RowConsumer` and the next one begins at its first byte.

The bytes of the row in progress are kept in a `RowBuffer`. A *single*
buffer holds one row, which the next row overwrites byte by byte. A
*paired* buffer keeps the last completed row intact beside the row in
progress. Either way a byte can be combined with the byte above it: while
the delta mode is on, what is appended is the exclusive or of the two.

Rows are handed over in order and at most once. After the last one the
assembler takes no more bytes.
-/

namespace WpgRaster

/-- What receives packed rows, in order. -/
class RowConsumer (κ : Type) where
  /-- Takes the row of an index or refuses it. -/
  consume (row : Nat) (bytes : Bytes) : EStateM RasterError κ Unit

/-- The bytes of the row in progress, and of the row above it. -/
inductive RowBuffer
  /-- One row, overwritten in place. -/
  | single (row : Bytes)
  /-- The row in progress and the last completed one. -/
  | paired (current previous : Bytes)
  deriving DecidableEq, Repr

namespace RowBuffer

/-- The row in progress. -/
def current : RowBuffer → Bytes
  | single row => row
  | paired current _ => current

/-- The row above it. In a single buffer, the part of it that is not yet
overwritten. -/
def previous : RowBuffer → Bytes
  | single row => row
  | paired _ previous => previous

/-- Whether the row above is kept beside the row in progress. -/
def isPaired : RowBuffer → Bool
  | single _ => false
  | paired .. => true

/-- Stores a byte of the row in progress. -/
def store (column : Nat) (byte : UInt8) : RowBuffer → RowBuffer
  | single row => single (row.setIfInBounds column byte)
  | paired current previous => paired (current.setIfInBounds column byte) previous

/-- Zeros the row in progress from a column on. -/
def zeroFrom (column : Nat) : RowBuffer → RowBuffer
  | single row => single (zeroTail row)
  | paired current previous => paired (zeroTail current) previous
where
  /-- Zeros the bytes of a row from the column on. -/
  zeroTail (row : Bytes) : Bytes :=
    row.extract 0 column ++ Array.replicate (row.size - column) 0

/-- Makes the row in progress a copy of the row above it. -/
def repeatPrevious : RowBuffer → RowBuffer
  | single row => single row
  | paired _ previous => paired previous previous

/-- Makes the row in progress the completed one. -/
def flip : RowBuffer → RowBuffer
  | single row => single row
  | paired current previous => paired previous current

/-- Storing a byte keeps the size of the row. -/
@[simp] theorem size_current_store (buffer : RowBuffer) (column : Nat) (byte : UInt8) :
    (buffer.store column byte).current.size = buffer.current.size := by
  cases buffer <;> simp [store, current]

/-- Zeroing the rest of a row keeps its size. -/
theorem size_current_zeroFrom (buffer : RowBuffer) (column : Nat) :
    (buffer.zeroFrom column).current.size = buffer.current.size := by
  cases buffer <;> simp [zeroFrom, zeroFrom.zeroTail, current] <;> omega

/-- The completed row is the row above the next one. -/
@[simp] theorem previous_flip (buffer : RowBuffer) : buffer.flip.previous = buffer.current := by
  cases buffer <;> rfl

/-- A repeated row is the row above. -/
@[simp] theorem current_repeatPrevious (buffer : RowBuffer) :
    buffer.repeatPrevious.current = buffer.previous := by
  cases buffer <;> rfl

end RowBuffer

/-- Bytes on their way to becoming rows. -/
structure RowAssembler where
  /-- Bytes in a row. -/
  width : Nat
  /-- The number of rows. -/
  rows : Nat
  /-- The row in progress. -/
  buffer : RowBuffer
  /-- Bytes of it that are there. -/
  column : Nat
  /-- Its index, which is the number of completed rows. -/
  row : Nat
  /-- Whether bytes are combined with those above them. -/
  delta : Bool
  deriving DecidableEq, Repr

/-- An assembler and the consumer of its rows. -/
structure RowState (κ : Type) where
  /-- The assembler. -/
  assembler : RowAssembler
  /-- The consumer. -/
  consumer : κ

/-- A computation that completes rows. -/
abbrev RowM (κ α : Type) := EStateM RasterError (RowState κ) α

namespace RowAssembler

/-- An assembler before the first byte. The row above the first one is
zero. -/
def make (width rows : Nat) (paired : Bool) : Except RasterError RowAssembler :=
  if width = 0 then .error (.zeroDimensions width rows)
  else if Size.allocatable width then
    let blank := Array.replicate width 0
    let buffer := if paired then .paired blank blank else .single blank
    .ok { width, rows, buffer, column := 0, row := 0, delta := false }
  else .error (.allocationFailure width)

/-- Whether all rows are completed. -/
def isComplete (asm : RowAssembler) : Bool := asm.rows ≤ asm.row

/-- The last completed row, zeros before the first; see `RowBuffer.previous`. -/
def previousRow (asm : RowAssembler) : Bytes := asm.buffer.previous

/-- Turns the delta mode on or off. -/
def toggleDelta (asm : RowAssembler) : RowAssembler := { asm with delta := !asm.delta }

/-- The byte that is stored when `byte` is appended: in delta mode it is
combined with the byte above. -/
def combine (asm : RowAssembler) (byte : UInt8) : UInt8 :=
  if asm.delta then byte ^^^ asm.buffer.previous[asm.column]?.getD 0 else byte

/-- The assembler with a byte more in its row. -/
def store (asm : RowAssembler) (byte : UInt8) : RowAssembler :=
  let byte := asm.combine byte
  { asm with buffer := asm.buffer.store asm.column byte, column := asm.column + 1 }

/-- The assembler at the start of the next row. With a paired buffer the
delta mode ends with the row. -/
def nextRow (asm : RowAssembler) : RowAssembler :=
  { asm with
    buffer := asm.buffer.flip
    column := 0
    row := asm.row + 1
    delta := asm.delta && !asm.buffer.isPaired }

variable {κ : Type} [RowConsumer κ]

/-- Hands the row in progress over. A row that is refused stays in
progress. -/
def commit : RowM κ Unit := fun ⟨asm, consumer⟩ =>
  match RowConsumer.consume asm.row asm.buffer.current consumer with
  | .ok () consumer => .ok () ⟨asm.nextRow, consumer⟩
  | .error err consumer => .error err ⟨asm, consumer⟩

/-- Appends a byte and hands the row over if that completes it. -/
def append (byte : UInt8) : RowM κ Unit := fun ⟨asm, consumer⟩ =>
  if asm.isComplete then .error .rowsExhausted ⟨asm, consumer⟩
  else if asm.width ≤ asm.column then .error (.rowOverrun asm.row) ⟨asm, consumer⟩
  else
    let asm := asm.store byte
    if asm.column = asm.width then commit ⟨asm, consumer⟩ else .ok () ⟨asm, consumer⟩

/-- Appends bytes one after another. -/
def appendAll : List UInt8 → RowM κ Unit
  | [] => pure ()
  | byte :: rest => do
    append byte
    appendAll rest

/-- Appends the same bytes several times. -/
def appendRepeated (bytes : List UInt8) : (count : Nat) → RowM κ Unit
  | 0 => pure ()
  | count + 1 => do
    appendAll bytes
    appendRepeated bytes count

/-- Hands the row above over again, `count` times or until all rows are
completed. -/
def resubmit : (count : Nat) → RowM κ Unit
  | 0 => pure ()
  | count + 1 => fun ⟨asm, consumer⟩ =>
    if asm.isComplete then .ok () ⟨asm, consumer⟩
    else
      (do
        commit
        resubmit count : RowM κ Unit)
        ⟨{ asm with buffer := asm.buffer.repeatPrevious }, consumer⟩

/-- Repeats the last completed row, which only works between rows. -/
def repeatRow (count : Nat) : RowM κ Unit := fun ⟨asm, consumer⟩ =>
  if asm.column = 0 then resubmit count ⟨asm, consumer⟩
  else .error (.midRowRepeat asm.row asm.column) ⟨asm, consumer⟩

/-- Completes `count` rows with zeros, the row in progress first. -/
def fillRows : (count : Nat) → RowM κ Unit
  | 0 => pure ()
  | count + 1 => fun ⟨asm, consumer⟩ =>
    (do
      commit
      fillRows count : RowM κ Unit)
      ⟨{ asm with buffer := asm.buffer.zeroFrom asm.column }, consumer⟩

/-- Completes all rows with zeros and answers how many there were. -/
def fillRemaining : RowM κ Nat := do
  let asm := (← get).assembler
  let count := asm.rows - asm.row
  fillRows count
  return count

end RowAssembler

end WpgRaster
