import Mathlib.Data.List.Induction
import WpgRaster.Proofs.Row.Packing
import WpgRaster.Proofs.Row.Pairing

/-!
# Keeping a ledger of rows

Where the bytes of the rows come from can be written down without an assembler: a byte was
appended, with or without the delta mode, a row was repeated, or a byte was filled up with zero.
A `Ledger` has these entries in their order, and from them one can tell every byte
(`Ledger.bytes`), because what an entry stands for depends on nothing but the bytes before it:
the byte above is `width` bytes back, and before the first row there are zeros.

What an operation of an assembler enters is told by the number of bytes that are there and the
number that there is room for (`Ledger.record`). A sheet is *accounted for* by a ledger if it
has the same bytes (`Sheet.Accounted`), and every operation keeps it so. Therefore an assembler
whose consumer accepts all rows is in balance with its ledger behind any sequence of operations
(`Ledger.balanced_performAll`): no byte is lost and none is there twice.
-/

namespace WpgRaster

/-! ## Entries -/

/-- Where bytes of the rows come from. -/
inductive Entry
  /-- A byte was appended, maybe in delta mode. -/
  | appended (byte : UInt8) (delta : Bool)
  /-- A row was repeated. -/
  | repeated
  /-- A byte was filled up. -/
  | filled
  deriving DecidableEq, Repr

/-- The bytes that an entry stands for, behind those of the entries before it. The byte above
the next one is the first of the last `width` bytes. -/
def Entry.bytes (width : Nat) (before : List UInt8) : Entry → List UInt8
  | appended byte delta =>
    let above := (lastRow width before).headD 0
    [if delta then byte ^^^ above else byte]
  | repeated => lastRow width before
  | filled => [0]

/-- The bytes with those of an entry behind them. -/
def Entry.extend (width : Nat) (before : List UInt8) (entry : Entry) : List UInt8 :=
  before ++ entry.bytes width before

/-- Where all bytes of the rows come from. -/
structure Ledger where
  /-- The entries, in their order. -/
  entries : List Entry := []
  /-- Whether the next byte is appended in delta mode. -/
  delta : Bool := false
  deriving DecidableEq, Repr

namespace Ledger

/-- The bytes of all rows, and of the row in progress. -/
def bytes (width : Nat) (ledger : Ledger) : List UInt8 :=
  ledger.entries.foldl (Entry.extend width) []

/-- How many bytes were appended. -/
def appended (ledger : Ledger) : Nat := ledger.entries.countP (· matches .appended ..)

/-- How many rows were repeated. -/
def repeated (ledger : Ledger) : Nat := ledger.entries.countP (· matches .repeated)

/-- How many bytes were filled up. -/
def filled (ledger : Ledger) : Nat := ledger.entries.countP (· matches .filled)

/-- How many bytes there are. -/
def size (width : Nat) (ledger : Ledger) : Nat :=
  ledger.appended + width * ledger.repeated + ledger.filled

section Operations

variable (shape : Shape)

/-- Makes entries. With a paired buffer, the delta mode ends as soon as there is a row more. -/
def enter (new : List Entry) (ledger : Ledger) : Ledger :=
  let entries := ledger.entries ++ new
  let rows := ledger.size shape.width / shape.width
  let goesOn := size shape.width { entries } / shape.width == rows
  { entries, delta := ledger.delta && (!shape.paired || goesOn) }

/-- Enters a byte, if there is room for it. -/
def append (ledger : Ledger) (byte : UInt8) : Ledger :=
  if ledger.size shape.width < shape.rows * shape.width then
    ledger.enter shape [.appended byte ledger.delta]
  else ledger

/-- **What an operation enters.** Rows are repeated between rows only, and as often as there is
room for them; filled up is all the room there is. -/
def record (ledger : Ledger) (op : RowOp) : Ledger :=
  let size := ledger.size shape.width
  match op with
  | .append byte => ledger.append shape byte
  | .appendAll bytes => bytes.foldl (append shape) ledger
  | .toggleDelta => { ledger with delta := !ledger.delta }
  | .repeatRow count =>
    if size % shape.width = 0 then
      let room := shape.rows - size / shape.width
      ledger.enter shape (List.replicate (min count room) .repeated)
    else ledger
  | .fillRemaining => ledger.enter shape (List.replicate (shape.rows * shape.width - size) .filled)

/-- What an operation answers. -/
def answer (ledger : Ledger) (op : RowOp) : Except RasterError (Option Nat) :=
  let size := ledger.size shape.width
  match op with
  | .append _ => if size < shape.rows * shape.width then .ok none else .error .rowsExhausted
  | .appendAll bytes =>
    if bytes.length ≤ shape.rows * shape.width - size then .ok none else .error .rowsExhausted
  | .toggleDelta => .ok none
  | .repeatRow _ =>
    if size % shape.width = 0 then .ok none
    else .error (.midRowRepeat (size / shape.width) (size % shape.width))
  | .fillRemaining => .ok (some (shape.rows - size / shape.width))

/-- The ledger of a sequence of operations. -/
def recordAll (ops : List RowOp) : Ledger := ops.foldl (record shape) {}

end Operations

variable {width : Nat} {ledger : Ledger}

theorem bytes_enter (shape : Shape) (new : List Entry) :
    (ledger.enter shape new).bytes width
      = new.foldl (Entry.extend width) (ledger.bytes width) :=
  List.foldl_append

theorem bytes_enter_singleton (shape : Shape) (entry : Entry) :
    (ledger.enter shape [entry]).bytes width
      = ledger.bytes width ++ entry.bytes width (ledger.bytes width) := bytes_enter _ _

/-- Bytes that are filled up are zeros behind the others. -/
theorem foldl_filled (count : Nat) (before : List UInt8) :
    (List.replicate count Entry.filled).foldl (Entry.extend width) before
      = before ++ List.replicate count 0 := by
  induction count generalizing before with
  | zero => exact (List.append_nil before).symm
  | succ count ih =>
    rw [List.replicate_succ, List.foldl_cons, ih, List.replicate_succ]
    exact List.append_assoc before [0] _

/-- An entry stands for one byte or for a row of them. -/
theorem size_enter_singleton (ledger : Ledger) (entry : Entry) (before : List UInt8) :
    size width { entries := ledger.entries ++ [entry] }
      = ledger.size width + (entry.bytes width before).length := by
  unfold size appended repeated filled
  simp only [List.countP_append, List.countP_singleton]
  cases entry <;> simp [Entry.bytes, length_lastRow, Nat.mul_add] <;> omega

/-- **The entries tell how many bytes there are.** -/
theorem length_bytes (ledger : Ledger) : (ledger.bytes width).length = ledger.size width := by
  obtain ⟨entries, delta⟩ := ledger
  induction entries using List.reverseRecOn with
  | nil => rfl
  | append_singleton entries entry ih =>
    have more : bytes width ⟨entries ++ [entry], delta⟩
        = bytes width ⟨entries, delta⟩ ++ entry.bytes width (bytes width ⟨entries, delta⟩) :=
      List.foldl_append
    rw [more, List.length_append, ih]
    exact (size_enter_singleton ⟨entries, delta⟩ entry _).symm

end Ledger

/-! ## Sheets that are accounted for -/

namespace Sheet

variable {shape : Shape} {sheet : Sheet} {ledger : Ledger}

/-- The bytes of repeated rows are those of the last row, over and over. -/
theorem Regular.bytes_repeatAbove (even : sheet.Regular shape) (fresh : sheet.current = [])
    (count : Nat) :
    (sheet.repeatAbove shape count).bytes
      = (List.replicate (min count (shape.rows - sheet.completed.length)) Entry.repeated).foldl
          (Entry.extend shape.width) sheet.bytes := by
  induction count generalizing sheet with
  | zero =>
    rw [Nat.zero_min]
    rfl
  | succ count ih =>
    by_cases full : sheet.IsComplete shape
    · rw [repeatAbove_of_isComplete full, Nat.sub_eq_zero_of_le full, Nat.min_zero]
      rfl
    · obtain ⟨room, left⟩ : ∃ room, shape.rows - sheet.completed.length = room + 1 :=
        ⟨shape.rows - sheet.completed.length - 1, by unfold IsComplete at full; omega⟩
      have fewer : shape.rows - (sheet.completed ++ [sheet.above shape]).length = room := by
        rw [List.length_append, List.length_singleton]
        omega
      have closed : (sheet.close shape (sheet.above shape)).bytes
          = Entry.extend shape.width sheet.bytes .repeated := by
        show (sheet.completed ++ [_]).flatMap Array.toList ++ [] = sheet.bytes ++ lastRow _ _
        rw [← even.toList_above fresh, List.flatMap_append, List.flatMap_singleton,
          List.append_nil]
        unfold bytes
        rw [fresh, List.append_nil]
      rw [left, Nat.succ_min_succ, List.replicate_succ, List.foldl_cons, ← closed, ← fewer]
      unfold repeatAbove
      rw [if_neg full]
      exact ih (even.close full even.size_above) rfl

theorem Regular.repeatAbove (even : sheet.Regular shape) (count : Nat) :
    (sheet.repeatAbove shape count).Regular shape := by
  induction count generalizing sheet with
  | zero => exact even
  | succ count ih =>
    unfold Sheet.repeatAbove
    split
    · exact even
    · next short => exact ih (even.close short even.size_above)

/-- The bytes of rows that are filled up are zeros behind the others. -/
theorem bytes_fill_succ (sheet : Sheet) (count : Nat) :
    (sheet.fill shape (count + 1)).bytes = sheet.bytes
      ++ List.replicate (shape.width - sheet.current.length + count * shape.width) 0 := by
  have padded : (sheet.padded shape).toList
      = sheet.current ++ List.replicate (shape.width - sheet.current.length) 0 := rfl
  have blank : (blankRow shape).toList = List.replicate shape.width 0 := Array.toList_replicate
  unfold bytes
  rw [completed_fill_succ, current_fill_succ, List.append_nil, List.flatMap_append,
    List.flatMap_cons, padded, List.flatMap_replicate, blank, List.flatten_replicate_replicate,
    List.append_assoc, List.append_assoc, List.replicate_append_replicate]

/-- As many of them as there is room for, if all missing rows are filled up. -/
theorem Regular.bytes_fill (even : sheet.Regular shape) :
    (sheet.fill shape (shape.rows - sheet.completed.length)).bytes
      = sheet.bytes ++ List.replicate (sheet.room shape) 0 := by
  have column := even.column
  cases missing : shape.rows - sheet.completed.length with
  | zero =>
    rw [even.room_eq_zero_iff.mpr (Nat.le_of_sub_eq_zero missing)]
    exact (List.append_nil _).symm
  | succ count =>
    have rows : shape.rows * shape.width
        = sheet.completed.length * shape.width + count * shape.width + shape.width := by
      rw [← Nat.add_mul, ← Nat.succ_mul]
      congr 1
      omega
    rw [bytes_fill_succ]
    unfold room
    congr 2
    omega

theorem Regular.fill (even : sheet.Regular shape) (count : Nat)
    (few : sheet.completed.length + count ≤ shape.rows) :
    (sheet.fill shape count).Regular shape := by
  induction count generalizing sheet with
  | zero => exact even
  | succ count ih =>
    have short : ¬ sheet.IsComplete shape := by
      unfold IsComplete
      omega
    have column := even.column
    refine ih (even.close short ?_) ?_
    · unfold padded
      rw [List.size_toArray, List.length_append, List.length_replicate]
      omega
    · show (sheet.completed ++ [_]).length + count ≤ shape.rows
      rw [List.length_append, List.length_singleton]
      omega

/-- **A sheet that is accounted for**: it has the bytes of the ledger, in rows of full length,
and none behind the last row. -/
structure Accounted (shape : Shape) (sheet : Sheet) (ledger : Ledger) : Prop
    extends Regular shape sheet where
  /-- Behind the last row, no other one is begun. -/
  idle : sheet.IsComplete shape → sheet.current = []
  /-- The bytes are those of the ledger. -/
  bytes_eq : sheet.bytes = ledger.bytes shape.width
  /-- So is the delta mode. -/
  delta : sheet.delta = ledger.delta

namespace Accounted

/-- An empty sheet is accounted for by an empty ledger. -/
theorem empty (wide : 0 < shape.width) : ({} : Sheet).Accounted shape {} where
  toRegular := .empty wide
  idle := fun _ => rfl
  bytes_eq := rfl
  delta := rfl

variable (accounted : sheet.Accounted shape ledger)

include accounted

/-- The ledger tells the number of bytes, -/
theorem length_eq : sheet.bytes.length = ledger.size shape.width := by
  rw [accounted.bytes_eq, ledger.length_bytes]

/-- of rows, -/
theorem rows_eq : sheet.completed.length = ledger.size shape.width / shape.width := by
  rw [accounted.length_completed, accounted.length_eq]

/-- and of bytes of the row in progress, -/
theorem column_eq : sheet.current.length = ledger.size shape.width % shape.width := by
  rw [accounted.length_current, accounted.length_eq]

theorem fresh_iff : sheet.current = [] ↔ ledger.size shape.width % shape.width = 0 := by
  rw [← accounted.column_eq, List.length_eq_zero_iff]

/-- and so it tells whether there is room. -/
theorem short_iff :
    ¬ sheet.IsComplete shape ↔ ledger.size shape.width < shape.rows * shape.width := by
  rw [← accounted.room_eq_zero_iff, accounted.room_eq, accounted.length_eq]
  omega

/-- **What goes on with the bytes of entries is accounted for by them.** -/
theorem enter {sheet' : Sheet} {new : List Entry} (onward : Onward shape sheet sheet')
    (even : sheet'.Regular shape) (idle : sheet'.IsComplete shape → sheet'.current = [])
    (bytes_eq : sheet'.bytes = (ledger.enter shape new).bytes shape.width) :
    sheet'.Accounted shape (ledger.enter shape new) := by
  refine ⟨even, idle, bytes_eq, ?_⟩
  -- the number of rows only depends on the entries, so it is known before the delta mode is
  have rows_eq : sheet'.completed.length
      = Ledger.size shape.width { entries := ledger.entries ++ new } / shape.width := by
    rw [even.length_completed, bytes_eq, Ledger.length_bytes]
    rfl
  rw [Bool.eq_iff_iff, onward.delta, accounted.delta, rows_eq, accounted.rows_eq]
  unfold Ledger.enter
  cases shape.paired <;> simp

/-- A byte is entered if there is room for it. -/
theorem write (byte : UInt8) :
    (sheet.write shape byte).Accounted shape (ledger.append shape byte) := by
  have room := accounted.short_iff
  unfold Ledger.append
  by_cases full : sheet.IsComplete shape
  · rw [if_neg fun less => room.mpr less full, write_of_isComplete full]
    exact accounted
  · rw [if_pos (room.mp full)]
    refine accounted.enter ((Impartial.write byte).onward shape sheet)
      (accounted.toRegular.write byte) (fun whole => ?_) ?_
    · -- a byte that is not the last one of its row leaves the sheet short
      by_cases last : sheet.current.length + 1 = shape.width
      · rw [write_last full last]
        rfl
      · rw [write_inside full last] at whole
        exact absurd whole full
    · rw [bytes_write full, Ledger.bytes_enter_singleton, accounted.bytes_eq]
      unfold combine Entry.bytes
      rw [accounted.getD_above, accounted.bytes_eq, accounted.delta]

theorem writeAll (bytes : List UInt8) :
    (sheet.writeAll shape bytes).Accounted shape (bytes.foldl (Ledger.append shape) ledger) := by
  induction bytes generalizing sheet ledger with
  | nil => exact accounted
  | cons byte rest ih => exact ih (accounted.write byte)

/-- **Every operation is accounted for.** -/
theorem record (op : RowOp) : (op.write shape sheet).Accounted shape (ledger.record shape op) := by
  cases op with
  | append byte => exact accounted.write byte
  | appendAll bytes => exact accounted.writeAll bytes
  | toggleDelta => exact
    { accounted with
      toRegular := ⟨⟨accounted.rows, accounted.column⟩, accounted.regular⟩
      delta := congrArg (!·) accounted.delta }
  | repeatRow count =>
    unfold RowOp.write Ledger.record
    dsimp only
    by_cases fresh : sheet.current = []
    · rw [if_pos fresh, if_pos (accounted.fresh_iff.mp fresh)]
      refine accounted.enter ((Impartial.repeatAbove count).onward shape sheet)
        (accounted.toRegular.repeatAbove count) (fun _ => current_repeatAbove fresh count) ?_
      rw [accounted.bytes_repeatAbove fresh, Ledger.bytes_enter, accounted.bytes_eq,
        accounted.rows_eq]
    · rw [if_neg fresh, if_neg fun zero => fresh (accounted.fresh_iff.mpr zero)]
      exact accounted
  | fillRemaining =>
    have rows := accounted.rows
    have room := accounted.room_eq
    have onward := (Impartial.fill (shape.rows - sheet.completed.length)).onward shape sheet
    have even := accounted.toRegular.fill (shape.rows - sheet.completed.length) (by omega)
    rw [accounted.length_eq] at room
    unfold RowOp.write Ledger.record
    dsimp only
    refine accounted.enter onward even (fun _ => ?_) ?_
    · cases missing : shape.rows - sheet.completed.length with
      | zero => exact accounted.idle (Nat.le_of_sub_eq_zero missing)
      | succ count => exact current_fill_succ count
    · rw [accounted.bytes_fill, Ledger.bytes_enter, Ledger.foldl_filled, accounted.bytes_eq, room]

/-- **The ledger tells every answer.** -/
theorem answer_eq (op : RowOp) : op.answer shape sheet = ledger.answer shape op := by
  have room := accounted.room_eq
  rw [accounted.length_eq] at room
  unfold RowOp.answer Ledger.answer
  cases op with
  | append byte =>
    dsimp only
    by_cases full : sheet.IsComplete shape
    · rw [if_pos full, if_neg fun less => accounted.short_iff.mpr less full]
    · rw [if_neg full, if_pos (accounted.short_iff.mp full)]
  | appendAll bytes =>
    dsimp only
    rw [room]
  | toggleDelta => rfl
  | repeatRow count =>
    dsimp only
    rw [accounted.rows_eq, accounted.column_eq]
    by_cases fresh : sheet.current = []
    · rw [if_pos fresh, if_pos (accounted.fresh_iff.mp fresh)]
    · rw [if_neg fresh, if_neg fun zero => fresh (accounted.fresh_iff.mpr zero)]
  | fillRemaining =>
    dsimp only
    rw [accounted.rows_eq]

end Accounted

end Sheet

/-! ## Assemblers in balance -/

variable {κ : Type} [RowConsumer κ] {start : κ} {shape : Shape} {sheet : Sheet} {ledger : Ledger}
  {state : RowState κ}

/-- **An assembler in balance with a ledger**: all bytes of the ledger are in the rows that the
consumer was handed, or in the row in progress. -/
structure RowState.Balanced (start : κ) (shape : Shape) (ledger : Ledger) (state : RowState κ) :
    Prop where
  /-- There are no more rows than the shape has. -/
  row_le : state.assembler.row ≤ shape.rows
  /-- The row in progress lacks a byte. -/
  column_lt : state.assembler.column < shape.width
  /-- Behind the last row, no other one is begun. -/
  column_eq_zero : state.assembler.row = shape.rows → state.assembler.column = 0
  /-- The consumer was handed the complete rows, in order and each of them once. They have full
  length, a paired buffer keeps the last of them, and with the row in progress they are the bytes
  of the ledger. -/
  received : ∃ received : List Bytes, Handed start received state.consumer
    ∧ received.length = state.assembler.row
    ∧ (∀ row ∈ received, row.size = shape.width)
    ∧ (shape.paired = true →
      state.assembler.previousRow = received.getLast?.getD (Array.replicate shape.width 0))
    ∧ received.flatMap Array.toList
        ++ state.assembler.buffer.current.toList.take state.assembler.column
      = ledger.bytes shape.width
  /-- No byte is lost, and none is there twice. -/
  counted : state.assembler.row * shape.width + state.assembler.column
    = ledger.appended + shape.width * ledger.repeated + ledger.filled
  /-- The delta mode is that of the ledger. -/
  delta : state.assembler.delta = ledger.delta

namespace Ledger

/-- An assembler that holds a sheet is in balance with what accounts for the sheet. -/
theorem balanced_of_holds (holds : HoldsAbove start shape sheet state)
    (accounted : sheet.Accounted shape ledger) : state.Balanced start shape ledger := by
  have begun : state.assembler.buffer.current.toList.take state.assembler.column
      = sheet.current := by
    refine List.ext_getElem? fun i => ?_
    rw [List.getElem?_take, holds.column_eq, Array.getElem?_toList]
    split
    · next inside => exact holds.stored i inside
    · next beyond => rw [List.getElem?_eq_none (Nat.le_of_not_lt beyond)]
  have length := accounted.length_bytes
  have size : ledger.size shape.width
      = ledger.appended + shape.width * ledger.repeated + ledger.filled := rfl
  rw [accounted.length_eq, size] at length
  refine ⟨?_, ?_, fun last => ?_, ⟨sheet.completed, holds.handed, holds.row.symm,
    accounted.regular, holds.kept, ?_⟩, ?_, ?_⟩
  · rw [holds.row]
    exact holds.rows
  · rw [holds.column_eq]
    exact holds.column
  · rw [holds.column_eq, accounted.idle (Nat.le_of_eq (last.symm.trans holds.row)),
      List.length_nil]
  · rw [begun, ← accounted.bytes_eq]
    rfl
  · rw [holds.row, holds.column_eq, length]
  · rw [holds.delta, accounted.delta]

theorem performAll_cons {op : RowOp} {ops : List RowOp} {state' : RowState κ}
    {answer : Except RasterError (Option Nat)}
    (ran : op.perform state = (ofExcept answer : RowM κ (Option Nat)) state') :
    RowOp.performAll (op :: ops) state = RowOp.performAll ops state' := by
  rw [RowOp.performAll, ran]
  cases answer <;> rfl

/-- **Sheet and ledger are kept together** along any sequence of operations. -/
theorem accounted_performAll (accepts : Accepts start shape.rows) (ops : List RowOp)
    (holds : HoldsAbove start shape sheet state) (accounted : sheet.Accounted shape ledger) :
    ∃ sheet', HoldsAbove start shape sheet' (RowOp.performAll ops state)
      ∧ sheet'.Accounted shape (ops.foldl (record shape) ledger) := by
  induction ops generalizing sheet ledger state with
  | nil => exact ⟨sheet, holds, accounted⟩
  | cons op ops ih =>
    obtain ⟨state', holds', ran⟩ := holds.perform accepts op
    rw [performAll_cons ran, List.foldl_cons]
    exact ih holds' (accounted.record op)

/-- **No byte is lost and none is there twice.** Behind any sequence of operations, an assembler
whose consumer accepts all rows is in balance with its ledger, which also tells what the next
operation answers. With a paired buffer the delta mode is off whenever rows were completed. -/
theorem balanced_performAll {width rows : Nat} {paired : Bool} {asm : RowAssembler}
    (made : RowAssembler.make width rows paired = .ok asm) (accepts : Accepts start rows)
    (ops : List RowOp) :
    let shape : Shape := ⟨width, rows, paired⟩
    let ledger := recordAll shape ops
    let state := RowOp.performAll ops ⟨asm, start⟩
    state.Balanced start shape ledger
    ∧ ∀ op : RowOp, ∃ state',
        op.perform state = (ofExcept (ledger.answer shape op) : RowM κ (Option Nat)) state'
        ∧ (paired = true → state'.assembler.row ≠ state.assembler.row →
          state'.assembler.delta = false) := by
  intro shape ledger state
  have held := (Holds.of_make made start).holdsAbove rfl
  obtain ⟨sheet, holds, accounted⟩ :=
    accounted_performAll accepts ops held (.empty held.column)
  refine ⟨balanced_of_holds holds accounted, fun op => ?_⟩
  obtain ⟨state', holds', ran⟩ := holds.perform accepts op
  rw [accounted.answer_eq] at ran
  refine ⟨state', ran, fun pairs more => ?_⟩
  rw [holds'.row, holds.row] at more
  have writes : op ≠ .toggleDelta := fun toggles => more (by rw [toggles]; rfl)
  rw [holds'.delta, ← Bool.not_eq_true]
  exact fun on => more ((((RowOp.impartial_write writes).onward shape sheet).delta.mp on).2 pairs)

/-- Two rows of two bytes, the second one in delta mode, which is off behind it. A third row is
repeated, and the last one is filled up behind its first byte. -/
theorem balanced_performAll_fourRows :
    let ops : List RowOp := [.appendAll [5, 7], .toggleDelta, .appendAll [1, 2], .repeatRow 1,
      .append 9, .fillRemaining]
    let ledger := recordAll ⟨2, 4, true⟩ ops
    ledger.bytes 2 = [5, 7, 4, 5, 4, 5, 9, 0]
    ∧ ∃ asm, RowAssembler.make 2 4 true = .ok asm
      ∧ (RowOp.performAll ops ⟨asm, RowLog.empty⟩).Balanced RowLog.empty ⟨2, 4, true⟩ ledger := by
  intro ops ledger
  exact ⟨by decide, _, rfl, (balanced_performAll rfl (RowLog.accepts_empty 4) ops).1⟩

end Ledger

end WpgRaster
