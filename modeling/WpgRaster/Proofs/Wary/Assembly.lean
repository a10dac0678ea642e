import Mathlib.Data.Option.Basic
import WpgRaster.Proofs.Row.Assembly
import WpgRaster.Proofs.Wary.Steps

/-!
# Rows that are assembled warily

The operations of an assembler are carried out once more, and this time they look whether the byte
that they store is in the row in progress, and the byte above it in the row above, whether the two
rows are of one length before one is copied onto the other, and whether a word can count the bytes
and the rows. Rows go to a wary consumer.

If the consumer copes with rows of the shape (`Wary.Copes`), then each operation agrees with the
one that does not look, as long as the assembler holds a sheet. No operation asks whether the
consumer accepts the row: if a row is refused, then both ways of carrying it out end there.
-/

namespace WpgRaster

namespace RowAssembler

/-- The byte that is stored, if there is one above it to combine it with. -/
def combine? (asm : RowAssembler) (byte : UInt8) : Option UInt8 :=
  if asm.delta then asm.buffer.previous[asm.column]?.map (byte ^^^ ·) else some byte

/-- The assembler with a byte more, if its row has a place for it. -/
def store? (asm : RowAssembler) (byte : UInt8) : Option RowAssembler := do
  let byte ← asm.combine? byte
  guard (asm.column < asm.buffer.current.size)
  let column ← Size.add? asm.column 1
  return { asm with buffer := asm.buffer.store asm.column byte, column }

/-- The assembler at the start of the next row, if the row has a number. -/
def nextRow? (asm : RowAssembler) : Option RowAssembler := do
  let row ← Size.add? asm.row 1
  return { asm.nextRow with row }

/-- The assembler with the row above in place of the row in progress, if they are of one length. -/
def repeated? (asm : RowAssembler) : Option RowAssembler := do
  guard (asm.buffer.current.size = asm.buffer.previous.size)
  return { asm with buffer := asm.buffer.repeatPrevious }

/-- The assembler with zeros in the rest of its row, if the row goes as far as its bytes. -/
def zeroed? (asm : RowAssembler) : Option RowAssembler := do
  guard (asm.column ≤ asm.buffer.current.size)
  return { asm with buffer := asm.buffer.zeroFrom asm.column }

end RowAssembler

namespace Wary

/-! ## Operations -/

section

variable {κ : Type} (consume : Nat → Bytes → Wary RasterError κ Unit)

/-- Hands the row in progress over. -/
def commit : Wary RasterError (RowState κ) Unit := fun ⟨asm, consumer⟩ =>
  match consume asm.row asm.buffer.current consumer with
  | .error err consumer => .error err ⟨asm, consumer⟩
  | .ok () consumer =>
    match asm.nextRow? with
    | none => .error none ⟨asm, consumer⟩
    | some asm => .ok () ⟨asm, consumer⟩

/-- Appends a byte, and hands the row over if that completes it. Whether it does is told by the
length of the row itself. -/
def append (byte : UInt8) : Wary RasterError (RowState κ) Unit := fun ⟨asm, consumer⟩ =>
  if asm.isComplete then .error (some .rowsExhausted) ⟨asm, consumer⟩
  else
    match asm.store? byte with
    | none => .error none ⟨asm, consumer⟩
    | some asm =>
      if asm.column = asm.buffer.current.size then commit consume ⟨asm, consumer⟩
      else .ok () ⟨asm, consumer⟩

/-- Appends bytes one after another. -/
def appendAll : List UInt8 → Wary RasterError (RowState κ) Unit
  | [] => pure ()
  | byte :: rest => do
    append consume byte
    appendAll rest

/-- Appends the same bytes several times. -/
def appendRepeated (bytes : List UInt8) : (count : Nat) → Wary RasterError (RowState κ) Unit
  | 0 => pure ()
  | count + 1 => do
    appendAll consume bytes
    appendRepeated bytes count

/-- Hands the row above over again, `count` times or until all rows are completed. -/
def resubmit : (count : Nat) → Wary RasterError (RowState κ) Unit
  | 0 => pure ()
  | count + 1 => fun ⟨asm, consumer⟩ =>
    if asm.isComplete then .ok () ⟨asm, consumer⟩
    else
      match asm.repeated? with
      | none => .error none ⟨asm, consumer⟩
      | some asm =>
        (do
          commit consume
          resubmit count : Wary RasterError (RowState κ) Unit) ⟨asm, consumer⟩

/-- Repeats the last completed row, which only works between rows. -/
def repeatRow (count : Nat) : Wary RasterError (RowState κ) Unit := fun ⟨asm, consumer⟩ =>
  if asm.column = 0 then resubmit consume count ⟨asm, consumer⟩
  else .error (some (.midRowRepeat asm.row asm.column)) ⟨asm, consumer⟩

/-- Completes `count` rows with zeros, the row in progress first. -/
def fillRows : (count : Nat) → Wary RasterError (RowState κ) Unit
  | 0 => pure ()
  | count + 1 => fun ⟨asm, consumer⟩ =>
    match asm.zeroed? with
    | none => .error none ⟨asm, consumer⟩
    | some asm =>
      (do
        commit consume
        fillRows count : Wary RasterError (RowState κ) Unit) ⟨asm, consumer⟩

/-- Completes all rows with zeros and answers how many there were. -/
def fillRemaining : Wary RasterError (RowState κ) Nat := do
  let asm := (← get).assembler
  let count := asm.rows - asm.row
  fillRows consume count
  return count

end

/-! ## Within reach -/

/-- **A wary consumer that copes with rows** of a shape: it agrees on every row of the right
length, whatever rows came before, and there are neither rows nor bytes of a row that a word could
not count. -/
structure Copes {κ : Type} [RowConsumer κ] (consume : Nat → Bytes → Wary RasterError κ Unit)
    (start : κ) (shape : Shape) : Prop where
  /-- Rows of the length are consumed as they are consumed without looking. -/
  agrees : ∀ {rows before row}, Handed start rows before → rows.length < shape.rows →
    row.size = shape.width →
    Agrees (consume rows.length row) (RowConsumer.consume rows.length row) before
  /-- The bytes of a row can be counted. -/
  width : shape.width < Size.limit
  /-- The rows can be counted. -/
  rows : shape.rows < Size.limit

end Wary

/-- An operation that went well ended with its sheet. -/
theorem Lands.holds_of_ok {κ : Type} [RowConsumer κ] {start : κ} {shape : Shape} {fits : Prop}
    [Decidable fits] {sheet : Sheet} {result : EStateM.Result RasterError (RowState κ) Unit}
    (lands : Lands start shape fits sheet result) {state : RowState κ}
    (ran : result = .ok () state) : Holds start shape sheet state := by
  obtain ⟨landed, holds, ended⟩ | ⟨err, landed, -, ended⟩ := lands
  · rw [ran] at ended
    split at ended
    · cases ended
      exact holds
    · cases ended
  · rw [ran] at ended
    cases ended

namespace Holds

variable {κ : Type} [RowConsumer κ] {start : κ} {shape : Shape} {sheet : Sheet}
  {state : RowState κ}

/-- There is a place for a byte, and a byte above it. -/
theorem store?_eq (holds : Holds start shape sheet state) (word : shape.width < Size.limit)
    (byte : UInt8) : state.assembler.store? byte = some (state.assembler.store byte) := by
  have column : state.assembler.column < shape.width := by
    rw [holds.column_eq]
    exact holds.column
  have above : state.assembler.buffer.previous[state.assembler.column]?
      = some (state.assembler.buffer.previous[state.assembler.column]?.getD 0) := by
    rw [Array.getElem?_eq_getElem (by rwa [holds.size_previous])]
    rfl
  have combined : state.assembler.combine? byte = some (state.assembler.combine byte) := by
    unfold RowAssembler.combine? RowAssembler.combine
    rw [above]
    split <;> rfl
  have place : state.assembler.column < state.assembler.buffer.current.size := by
    rwa [holds.size_current]
  unfold RowAssembler.store?
  rw [combined, Size.add?_eq_some.mpr ⟨rfl, show state.assembler.column + 1 < Size.limit by omega⟩]
  simp only [(Option.guard_eq_some' ()).mpr place]
  rfl

/-- The rows are of one length. -/
theorem repeated?_eq (holds : Holds start shape sheet state) :
    state.assembler.repeated?
      = some { state.assembler with buffer := state.assembler.buffer.repeatPrevious } := by
  have lengths := holds.size_current.trans holds.size_previous.symm
  unfold RowAssembler.repeated?
  simp only [(Option.guard_eq_some' ()).mpr lengths]
  rfl

/-- The row goes as far as its bytes. -/
theorem zeroed?_eq (holds : Holds start shape sheet state) :
    state.assembler.zeroed? = some { state.assembler with
      buffer := state.assembler.buffer.zeroFrom state.assembler.column } := by
  have column : state.assembler.column ≤ state.assembler.buffer.current.size := by
    rw [holds.column_eq, holds.size_current]
    exact Nat.le_of_lt holds.column
  unfold RowAssembler.zeroed?
  simp only [(Option.guard_eq_some' ()).mpr column]
  rfl

end Holds

namespace Wary

variable {κ : Type} [RowConsumer κ] {consume : Nat → Bytes → Wary RasterError κ Unit} {start : κ}
  {shape : Shape} {sheet : Sheet} {state : RowState κ}

namespace Copes

/-- **A row is handed over.** -/
theorem commit_agrees (copes : Copes consume start shape)
    (carries : Carries start shape sheet state) (short : ¬ sheet.IsComplete shape) :
    Agrees (commit consume) RowAssembler.commit state := by
  obtain ⟨asm, consumer⟩ := state
  have row : asm.row = sheet.completed.length := carries.row
  have few : sheet.completed.length < shape.rows := Nat.lt_of_not_le short
  have given := copes.agrees carries.handed few carries.size_current
  rw [← row] at given few
  have rows := copes.rows
  have next : asm.nextRow? = some asm.nextRow := by
    unfold RowAssembler.nextRow?
    rw [Size.add?_eq_some.mpr ⟨rfl, show asm.row + 1 < Size.limit by omega⟩]
    rfl
  cases ran : RowConsumer.consume asm.row asm.buffer.current consumer with
  | ok _ after =>
    have step_eq : RowAssembler.commit ⟨asm, consumer⟩ = .ok () ⟨asm.nextRow, after⟩ := by
      unfold RowAssembler.commit
      dsimp only
      rw [ran]
    have wary_eq : commit consume ⟨asm, consumer⟩ = .ok () ⟨asm.nextRow, after⟩ := by
      unfold commit
      dsimp only
      rw [given.of_ok ran, next]
    exact .of_eq_ok step_eq wary_eq
  | error err after =>
    have step_eq : RowAssembler.commit ⟨asm, consumer⟩ = .error err ⟨asm, after⟩ := by
      unfold RowAssembler.commit
      dsimp only
      rw [ran]
    have wary_eq : commit consume ⟨asm, consumer⟩ = .error (some err) ⟨asm, after⟩ := by
      unfold commit
      dsimp only
      rw [given.of_error ran]
    exact .of_eq_error step_eq wary_eq

/-- **A byte is appended.** -/
theorem append_agrees (copes : Copes consume start shape) (holds : Holds start shape sheet state)
    (byte : UInt8) : Agrees (append consume byte) (RowAssembler.append byte) state := by
  have stored := holds.store?_eq copes.width byte
  have carries := holds.carries_store byte
  have width : (state.assembler.store byte).width = shape.width :=
    congrArg Shape.width carries.shape_eq
  have column : ¬ state.assembler.width ≤ state.assembler.column := by
    rw [show state.assembler.width = shape.width from width, holds.column_eq]
    exact Nat.not_le.mpr holds.column
  have complete := holds.isComplete_iff
  obtain ⟨asm, consumer⟩ := state
  -- the one way compares with the length of the row, the other one with the width
  by_cases full : sheet.IsComplete shape
  · exact .of_eq_error (if_pos (complete.mpr full)) (if_pos (complete.mpr full))
  have more : ¬ asm.isComplete = true := fun yes => full (complete.mp yes)
  have wary_eq : append consume byte ⟨asm, consumer⟩
      = if (asm.store byte).column = shape.width then commit consume ⟨asm.store byte, consumer⟩
        else .ok () ⟨asm.store byte, consumer⟩ := by
    unfold append
    dsimp only at stored ⊢
    rw [if_neg more, stored]
    dsimp only
    rw [carries.size_current]
  have step_eq : RowAssembler.append byte ⟨asm, consumer⟩
      = if (asm.store byte).column = shape.width then
          RowAssembler.commit ⟨asm.store byte, consumer⟩
        else .ok () ⟨asm.store byte, consumer⟩ := by
    unfold RowAssembler.append
    dsimp only at width column ⊢
    rw [if_neg more, if_neg column, width]
  by_cases last : (asm.store byte).column = shape.width
  · rw [if_pos last] at wary_eq step_eq
    exact .of_eq wary_eq step_eq (copes.commit_agrees carries full)
  · rw [if_neg last] at wary_eq step_eq
    exact .of_eq_ok step_eq wary_eq

/-- **Bytes are appended**, until one does not find room or a row is refused. -/
theorem appendAll_agrees (copes : Copes consume start shape)
    (holds : Holds start shape sheet state) (bytes : List UInt8) :
    Agrees (appendAll consume bytes) (RowAssembler.appendAll bytes) state := by
  induction bytes generalizing sheet state with
  | nil => rfl
  | cons byte rest ih =>
    exact (copes.append_agrees holds byte).bind fun _ mid ran =>
      ih ((holds.append_lands byte).holds_of_ok ran)

/-- Bytes are appended several times. -/
theorem appendRepeated_agrees (copes : Copes consume start shape)
    (holds : Holds start shape sheet state) (bytes : List UInt8) (count : Nat) :
    Agrees (appendRepeated consume bytes count) (RowAssembler.appendRepeated bytes count)
      state := by
  induction count generalizing sheet state with
  | zero => rfl
  | succ count ih =>
    exact (copes.appendAll_agrees holds bytes).bind fun _ mid ran =>
      ih ((holds.appendAll_lands bytes).holds_of_ok ran)

/-- The row above is handed over again. -/
theorem resubmit_agrees (copes : Copes consume start shape)
    (holds : Holds start shape sheet state) (fresh : sheet.current = []) (count : Nat) :
    Agrees (resubmit consume count) (RowAssembler.resubmit count) state := by
  induction count generalizing sheet state with
  | zero => rfl
  | succ count ih =>
    have complete := holds.isComplete_iff
    have repeated := holds.repeated?_eq
    have carries := holds.carries_repeatPrevious
    have within := holds.toWithin
    have above := holds.previous_eq fresh
    obtain ⟨asm, consumer⟩ := state
    by_cases full : sheet.IsComplete shape
    · exact .of_eq_ok (if_pos (complete.mpr full)) (if_pos (complete.mpr full))
    have more : ¬ asm.isComplete = true := fun yes => full (complete.mp yes)
    have wary_eq : resubmit consume (count + 1) ⟨asm, consumer⟩
        = (commit consume >>= fun _ => resubmit consume count)
          ⟨{ asm with buffer := asm.buffer.repeatPrevious }, consumer⟩ := by
      conv => lhs; unfold resubmit
      dsimp only at repeated ⊢
      rw [if_neg more, repeated]
    have whole := (RowBuffer.current_repeatPrevious asm.buffer).trans above
    have lands := carries.commit_lands within full whole
    exact .of_eq wary_eq (if_neg more) ((copes.commit_agrees carries full).bind
      fun _ mid ran => ih (lands.holds_of_ok ran) rfl)

/-- **Rows are repeated.** -/
theorem repeatRow_agrees (copes : Copes consume start shape)
    (holds : Holds start shape sheet state) (count : Nat) :
    Agrees (repeatRow consume count) (RowAssembler.repeatRow count) state := by
  by_cases fresh : sheet.current = []
  · have column : state.assembler.column = 0 := by
      rw [holds.column_eq, fresh, List.length_nil]
    exact .of_eq (if_pos column) (if_pos column) (copes.resubmit_agrees holds fresh count)
  · have column : ¬ state.assembler.column = 0 := by
      rw [holds.column_eq]
      exact fun none => fresh (List.eq_nil_of_length_eq_zero none)
    exact .of_eq_error (if_neg column) (if_neg column)

/-- Rows are filled up with zeros. -/
theorem fillRows_agrees (copes : Copes consume start shape)
    (holds : Holds start shape sheet state) (count : Nat)
    (few : sheet.completed.length + count ≤ shape.rows) :
    Agrees (fillRows consume count) (RowAssembler.fillRows count) state := by
  induction count generalizing sheet state with
  | zero => rfl
  | succ count ih =>
    have short : ¬ sheet.IsComplete shape := by
      unfold Sheet.IsComplete
      omega
    have zeroed := holds.zeroed?_eq
    have carries := holds.carries_zeroFrom
    have lands := carries.commit_lands holds.toWithin short holds.current_zeroFrom
    obtain ⟨asm, consumer⟩ := state
    have wary_eq : fillRows consume (count + 1) ⟨asm, consumer⟩
        = (commit consume >>= fun _ => fillRows consume count)
          ⟨{ asm with buffer := asm.buffer.zeroFrom asm.column }, consumer⟩ := by
      conv => lhs; unfold fillRows
      dsimp only at zeroed ⊢
      rw [zeroed]
    have step_eq : RowAssembler.fillRows (count + 1) ⟨asm, consumer⟩
        = (RowAssembler.commit >>= fun _ => RowAssembler.fillRows count)
          ⟨{ asm with buffer := asm.buffer.zeroFrom asm.column }, consumer⟩ := rfl
    refine .of_eq wary_eq step_eq ((copes.commit_agrees carries short).bind fun _ mid ran =>
      ih (lands.holds_of_ok ran) ?_)
    show (sheet.completed ++ [_]).length + count ≤ shape.rows
    rw [List.length_append, List.length_singleton]
    omega

/-- **All rows are filled up.** -/
theorem fillRemaining_agrees (copes : Copes consume start shape)
    (holds : Holds start shape sheet state) :
    Agrees (fillRemaining consume) RowAssembler.fillRemaining state := by
  have rows : state.assembler.rows = shape.rows := congrArg Shape.rows holds.shape_eq
  have within := holds.rows
  have row := holds.row
  exact (copes.fillRows_agrees holds (state.assembler.rows - state.assembler.row) (by omega)).bind
    fun _ mid _ => .pure _ mid

end Copes

end Wary

end WpgRaster
