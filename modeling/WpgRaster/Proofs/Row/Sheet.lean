import WpgRaster.Row.Assembler

/-!
# Sheets

A `Sheet` is what an assembler has achieved, without the buffers it
achieved it with: the rows that are complete, in order, the bytes of the
next one, and whether the delta mode is on. Decoding is described by what
it writes on a sheet; that the assembler does the same with one or two
buffers is the subject of `WpgRaster.Proofs.Row.Assembly`.

A sheet has a `Shape`. Writing past its last row has no effect, so the
number of bytes that still find a place, the `room` of the sheet, says
how much of a long run is kept. Rows that nothing was written to are zero
in the end: `frame` is the list of all rows of a finished sheet.
-/

namespace WpgRaster

/-- The measures of the rows of a frame. -/
structure Shape where
  /-- Bytes in a row. -/
  width : Nat
  /-- The number of rows. -/
  rows : Nat
  /-- Whether the row above is kept beside the row in progress. Then the
  delta mode ends with the row. -/
  paired : Bool
  deriving DecidableEq, Repr

/-- Rows as they are written. -/
structure Sheet where
  /-- The complete rows, in order. -/
  completed : List Bytes := []
  /-- The bytes of the row in progress. -/
  current : List UInt8 := []
  /-- Whether bytes are combined with those above them. -/
  delta : Bool := false
  deriving DecidableEq, Repr

namespace Sheet

variable (shape : Shape)

/-- A row of zeros. -/
def blankRow : Bytes := Array.replicate shape.width 0

/-- Whether all rows are there. -/
def IsComplete (sheet : Sheet) : Prop := shape.rows ≤ sheet.completed.length

instance (sheet : Sheet) : Decidable (sheet.IsComplete shape) :=
  inferInstanceAs (Decidable (shape.rows ≤ sheet.completed.length))

/-- The last complete row, zeros before the first. -/
def above (sheet : Sheet) : Bytes := sheet.completed.getLast?.getD (blankRow shape)

/-- What is stored when a byte is written: in delta mode the exclusive or
with the byte above. -/
def combine (sheet : Sheet) (byte : UInt8) : UInt8 :=
  if sheet.delta then byte ^^^ (sheet.above shape)[sheet.current.length]?.getD 0 else byte

/-- The sheet with a row more, and the next one begun. -/
def close (sheet : Sheet) (row : Bytes) : Sheet :=
  { completed := sheet.completed ++ [row]
    current := []
    delta := sheet.delta && !shape.paired }

/-- Writes a byte, if there is a row for it. -/
def write (sheet : Sheet) (byte : UInt8) : Sheet :=
  if sheet.IsComplete shape then sheet
  else
    let current := sheet.current ++ [sheet.combine shape byte]
    if current.length = shape.width then sheet.close shape current.toArray
    else { sheet with current }

/-- Writes bytes one after another. -/
def writeAll (sheet : Sheet) (bytes : List UInt8) : Sheet := bytes.foldl (write shape) sheet

/-- Repeats the last complete row, as often as there are rows for it. -/
def repeatAbove (sheet : Sheet) : (count : Nat) → Sheet
  | 0 => sheet
  | count + 1 =>
    if sheet.IsComplete shape then sheet
    else repeatAbove (sheet.close shape (sheet.above shape)) count

/-- The row in progress, filled up with zeros. -/
def padded (sheet : Sheet) : Bytes :=
  (sheet.current ++ List.replicate (shape.width - sheet.current.length) 0).toArray

/-- Fills up `count` rows with zeros, the row in progress first. -/
def fill (sheet : Sheet) : (count : Nat) → Sheet
  | 0 => sheet
  | count + 1 => fill (sheet.close shape (sheet.padded shape)) count

/-- All rows of a sheet that nothing more is written to: the complete
ones, the row in progress filled up with zeros, and zero rows. -/
def frame (sheet : Sheet) : List Bytes :=
  (sheet.completed ++ sheet.padded shape :: List.replicate shape.rows (blankRow shape)).take
    shape.rows

/-- How many bytes can be written until all rows are there. -/
def room (sheet : Sheet) : Nat :=
  shape.rows * shape.width - (sheet.completed.length * shape.width + sheet.current.length)

/-- **A sheet within its shape**: no row too many, and the row in progress
is none of the complete ones yet. -/
structure Within (sheet : Sheet) : Prop where
  /-- There are no more rows than the shape has. -/
  rows : sheet.completed.length ≤ shape.rows
  /-- The row in progress lacks a byte. -/
  column : sheet.current.length < shape.width

variable {shape} {sheet : Sheet}

@[simp] theorem writeAll_nil (sheet : Sheet) : sheet.writeAll shape [] = sheet := rfl

@[simp] theorem writeAll_cons (sheet : Sheet) (byte : UInt8) (rest : List UInt8) :
    sheet.writeAll shape (byte :: rest) = (sheet.write shape byte).writeAll shape rest := rfl

/-- Bytes may be written in portions. -/
theorem writeAll_append (sheet : Sheet) (bytes more : List UInt8) :
    sheet.writeAll shape (bytes ++ more) = (sheet.writeAll shape bytes).writeAll shape more :=
  List.foldl_append

/-- Nothing is written on a complete sheet. -/
theorem write_of_isComplete (full : sheet.IsComplete shape) (byte : UInt8) :
    sheet.write shape byte = sheet := if_pos full

/-- The last byte of a row closes it. -/
theorem write_last (short : ¬ sheet.IsComplete shape)
    (last : sheet.current.length + 1 = shape.width) (byte : UInt8) :
    sheet.write shape byte
      = sheet.close shape (sheet.current ++ [sheet.combine shape byte]).toArray := by
  unfold write
  rw [if_neg short]
  exact if_pos (by rw [List.length_append, List.length_singleton, last])

/-- Any other byte joins the row in progress. -/
theorem write_inside (short : ¬ sheet.IsComplete shape)
    (inside : sheet.current.length + 1 ≠ shape.width) (byte : UInt8) :
    sheet.write shape byte
      = { sheet with current := sheet.current ++ [sheet.combine shape byte] } := by
  unfold write
  rw [if_neg short]
  exact if_neg (by rwa [List.length_append, List.length_singleton])

theorem writeAll_of_isComplete (full : sheet.IsComplete shape) (bytes : List UInt8) :
    sheet.writeAll shape bytes = sheet := by
  induction bytes with
  | nil => rfl
  | cons byte rest ih => rw [writeAll_cons, write_of_isComplete full, ih]

theorem repeatAbove_of_isComplete (full : sheet.IsComplete shape) (count : Nat) :
    sheet.repeatAbove shape count = sheet := by
  cases count with
  | zero => rfl
  | succ count => exact if_pos full

/-! ## Room -/

theorem room_empty : ({} : Sheet).room shape = shape.rows * shape.width := by
  show shape.rows * shape.width - (0 * shape.width + 0) = shape.rows * shape.width
  rw [Nat.zero_mul, Nat.sub_zero]

/-- There is no room exactly when all rows are there. -/
theorem Within.room_eq_zero_iff (within : sheet.Within shape) :
    sheet.room shape = 0 ↔ sheet.IsComplete shape := by
  unfold room IsComplete
  have column := within.column
  refine ⟨fun none => Nat.le_of_not_lt fun short => ?_, fun full => ?_⟩
  · have step : (sheet.completed.length + 1) * shape.width ≤ shape.rows * shape.width :=
      Nat.mul_le_mul_right _ short
    rw [Nat.succ_mul] at step
    omega
  · have all : shape.rows * shape.width ≤ sheet.completed.length * shape.width :=
      Nat.mul_le_mul_right _ full
    omega

/-- The empty sheet is within any shape that has columns. -/
theorem Within.empty (wide : 0 < shape.width) : ({} : Sheet).Within shape :=
  ⟨Nat.zero_le _, wide⟩

/-- A row can be closed as long as there is one to close. -/
theorem Within.close (within : sheet.Within shape) (short : ¬ sheet.IsComplete shape)
    (row : Bytes) : (sheet.close shape row).Within shape := by
  refine ⟨?_, Nat.zero_lt_of_lt within.column⟩
  show (sheet.completed ++ [row]).length ≤ shape.rows
  rw [List.length_append, List.length_singleton]
  exact Nat.lt_of_not_le short

/-- Writing stays within the shape. -/
theorem Within.write (within : sheet.Within shape) (byte : UInt8) :
    (sheet.write shape byte).Within shape := by
  have column := within.column
  by_cases full : sheet.IsComplete shape
  · rwa [write_of_isComplete full]
  · by_cases last : sheet.current.length + 1 = shape.width
    · rw [write_last full last]
      exact within.close full _
    · rw [write_inside full last]
      refine ⟨within.rows, ?_⟩
      show (sheet.current ++ [_]).length < shape.width
      rw [List.length_append, List.length_singleton]
      omega

theorem Within.writeAll (within : sheet.Within shape) (bytes : List UInt8) :
    (sheet.writeAll shape bytes).Within shape := by
  induction bytes generalizing sheet with
  | nil => exact within
  | cons byte rest ih => exact ih (within.write byte)

theorem Within.repeatAbove (within : sheet.Within shape) (count : Nat) :
    (sheet.repeatAbove shape count).Within shape := by
  induction count generalizing sheet with
  | zero => exact within
  | succ count ih =>
    by_cases full : sheet.IsComplete shape
    · rwa [repeatAbove_of_isComplete full]
    · rw [Sheet.repeatAbove, if_neg full]
      exact ih (within.close full _)

/-- A byte takes up room for one. -/
theorem Within.room_write (within : sheet.Within shape) (byte : UInt8) :
    (sheet.write shape byte).room shape = sheet.room shape - 1 := by
  by_cases full : sheet.IsComplete shape
  · rw [write_of_isComplete full, within.room_eq_zero_iff.mpr full]
  · by_cases last : sheet.current.length + 1 = shape.width
    · rw [write_last full last]
      show shape.rows * shape.width - ((sheet.completed ++ [_]).length * shape.width + 0) = _
      rw [List.length_append, List.length_singleton, Nat.succ_mul]
      unfold room
      omega
    · rw [write_inside full last]
      show shape.rows * shape.width
        - (sheet.completed.length * shape.width + (sheet.current ++ [_]).length) = _
      rw [List.length_append, List.length_singleton]
      unfold room
      omega

theorem Within.room_writeAll (within : sheet.Within shape) (bytes : List UInt8) :
    (sheet.writeAll shape bytes).room shape = sheet.room shape - bytes.length := by
  induction bytes generalizing sheet with
  | nil => rfl
  | cons byte rest ih =>
    rw [writeAll_cons, ih (within.write byte), within.room_write, List.length_cons]
    omega

/-- As many bytes as there is room for complete the sheet. -/
theorem Within.isComplete_writeAll_iff (within : sheet.Within shape) (bytes : List UInt8) :
    (sheet.writeAll shape bytes).IsComplete shape ↔ sheet.room shape ≤ bytes.length := by
  rw [← (within.writeAll bytes).room_eq_zero_iff, within.room_writeAll]
  omega

/-! ## The finished sheet -/

/-- A row that nothing was written to is zero. -/
theorem padded_of_current_eq_nil (blank : sheet.current = []) :
    sheet.padded shape = blankRow shape := by
  unfold padded blankRow
  rw [blank, List.length_nil, Nat.sub_zero, List.nil_append, List.toArray_replicate]

/-- Filling up rows adds the row in progress and zero rows. -/
theorem completed_fill_succ (sheet : Sheet) (count : Nat) :
    (sheet.fill shape (count + 1)).completed
      = sheet.completed ++ sheet.padded shape :: List.replicate count (blankRow shape) := by
  induction count generalizing sheet with
  | zero => rfl
  | succ count ih =>
    have blank : (sheet.close shape (sheet.padded shape)).current = [] := rfl
    rw [fill, ih, padded_of_current_eq_nil blank, List.replicate_succ]
    exact List.append_assoc _ _ _

/-- **Filling up all missing rows makes the frame.** -/
theorem Within.completed_fill (within : sheet.Within shape) :
    (sheet.fill shape (shape.rows - sheet.completed.length)).completed = sheet.frame shape := by
  have rows := within.rows
  unfold frame
  rw [List.take_append]
  cases missing : shape.rows - sheet.completed.length with
  | zero =>
    rw [List.take_zero, List.append_nil]
    exact (List.take_of_length_le rows).symm
  | succ count =>
    rw [completed_fill_succ, List.take_succ_cons, List.take_replicate,
      List.take_of_length_le rows, Nat.min_eq_left (by omega)]

/-- A complete sheet is its frame. -/
theorem Within.frame_of_isComplete (within : sheet.Within shape)
    (full : sheet.IsComplete shape) : sheet.frame shape = sheet.completed := by
  rw [← within.completed_fill, Nat.sub_eq_zero_of_le full]
  rfl

/-- A frame has all rows. -/
theorem length_frame (sheet : Sheet) : (sheet.frame shape).length = shape.rows := by
  unfold frame
  rw [List.length_take, List.length_append, List.length_cons, List.length_replicate]
  omega

end Sheet

end WpgRaster
