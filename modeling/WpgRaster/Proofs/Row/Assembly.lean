import WpgRaster.Proofs.Row.Sheet
import WpgRaster.Proofs.Steps

/-!
# Assemblers write on sheets

An assembler and its consumer hold a sheet (`Holds`) if the consumer was
handed the complete rows of the sheet and the assembler has its row in
progress in the buffer. Each operation of the assembler then writes on
the sheet what its name says, with one buffer as with two.

Two things can come in between. All rows may be there: then the bytes
that found no room are refused with `RasterError.rowsExhausted`, and the
sheet is complete. Or the consumer refuses a row, and its error is the
error of the operation. `Lands` is the statement that an operation ends
in one of these ways; every operation has a lemma of that form. A
consumer that accepts all rows (`Accepts`) leaves only the first two.
-/

namespace WpgRaster

variable {κ : Type} [RowConsumer κ]

/-! ## Rows handed over -/

/-- **Rows handed over**: the consumer that `start` becomes by taking the
rows, one after another, as rows 0, 1, and so on. -/
inductive Handed (start : κ) : List Bytes → κ → Prop
  /-- No row yet. -/
  | none : Handed start [] start
  /-- One more row, which is taken. -/
  | more {rows : List Bytes} {row : Bytes} {before after : κ} :
    Handed start rows before →
    RowConsumer.consume rows.length row before = .ok () after →
    Handed start (rows ++ [row]) after

/-- **The rows handed over determine the consumer.** -/
theorem Handed.unique {start : κ} {rows : List Bytes} {consumer consumer' : κ}
    (handed : Handed start rows consumer) (handed' : Handed start rows consumer') :
    consumer = consumer' := by
  induction handed generalizing consumer' with
  | none =>
    generalize same : ([] : List Bytes) = rows at handed'
    cases handed' with
    | none => rfl
    | more => simp at same
  | @more rows row before after _ taken ih =>
    generalize same : rows ++ [row] = rows' at handed'
    cases handed' with
    | none => simp at same
    | more earlier taken' =>
      obtain ⟨rfl, only⟩ := List.append_inj' same rfl
      cases only
      rw [ih earlier, taken'] at taken
      cases taken
      rfl

/-- What was handed some rows was handed the first ones before. -/
theorem Handed.of_isPrefix {start : κ} {rows all : List Bytes} {consumer : κ}
    (handed : Handed start all consumer) (first : rows <+: all) :
    ∃ earlier, Handed start rows earlier := by
  induction handed with
  | none =>
    obtain rfl := List.prefix_nil.mp first
    exact ⟨start, .none⟩
  | more before taken ih =>
    obtain rfl | shorter := List.prefix_concat_iff.mp first
    · exact ⟨_, before.more taken⟩
    · exact ih shorter

/-- **A row refused**: the consumer took some rows, not all of `limit`, and
then refused one with an error. -/
def Refused (start : κ) (limit : Nat) (err : RasterError) (consumer : κ) : Prop :=
  ∃ rows row before, Handed start rows before ∧ rows.length < limit
    ∧ RowConsumer.consume rows.length row before = .error err consumer

/-- **All rows accepted**: whatever the consumer was handed, it takes the
next row as well, as long as there are not `limit` of them. -/
def Accepts (start : κ) (limit : Nat) : Prop :=
  ∀ rows before, Handed start rows before → rows.length < limit →
    ∀ row, ∃ after, RowConsumer.consume rows.length row before = .ok () after

/-- A consumer that accepts all rows refuses none. -/
theorem Accepts.not_refused {start : κ} {limit : Nat} (accepts : Accepts start limit)
    {err : RasterError} {consumer : κ} : ¬ Refused start limit err consumer := by
  rintro ⟨rows, row, before, handed, few, refused⟩
  obtain ⟨after, taken⟩ := accepts rows before handed few row
  rw [taken] at refused
  cases refused

/-! ## Sheets held -/

namespace RowAssembler

/-- The shape of the rows that are assembled. -/
def shape (asm : RowAssembler) : Shape := ⟨asm.width, asm.rows, asm.buffer.isPaired⟩

end RowAssembler

/-- **What an assembler keeps between rows**: its consumer was handed the
complete rows of the sheet, and both of its rows have full length. -/
structure Carries (start : κ) (shape : Shape) (sheet : Sheet) (state : RowState κ) :
    Prop where
  /-- The assembler is made for the shape. -/
  shape_eq : state.assembler.shape = shape
  /-- The complete rows went to the consumer. -/
  handed : Handed start sheet.completed state.consumer
  /-- The assembler counts them. -/
  row : state.assembler.row = sheet.completed.length
  /-- The delta mode is the one of the sheet. -/
  delta : state.assembler.delta = sheet.delta
  /-- The row in progress has its length from the beginning. -/
  size_current : state.assembler.buffer.current.size = shape.width
  /-- So has the row above. -/
  size_previous : state.assembler.buffer.previous.size = shape.width

/-- **An assembler that holds a sheet**: beside the complete rows it has
the row in progress at the front of its buffer, and from there on the row
above. A single buffer has both of them in one row. -/
structure Holds (start : κ) (shape : Shape) (sheet : Sheet) (state : RowState κ) : Prop
    extends Carries start shape sheet state, Sheet.Within shape sheet where
  /-- The assembler counts the bytes of the row in progress. -/
  column_eq : state.assembler.column = sheet.current.length
  /-- They are the first ones of its row. -/
  stored : ∀ i, i < sheet.current.length →
    state.assembler.buffer.current[i]? = sheet.current[i]?
  /-- From there on, the row above is the last complete one. -/
  above : ∀ i, sheet.current.length ≤ i →
    state.assembler.buffer.previous[i]? = (sheet.above shape)[i]?

/-- **How an operation ends**: with a sheet, successfully if what was
written fits and without room otherwise, or with a row refused. -/
def Lands (start : κ) (shape : Shape) (fits : Prop) [Decidable fits] (sheet : Sheet)
    (result : EStateM.Result RasterError (RowState κ) Unit) : Prop :=
  (∃ state, Holds start shape sheet state
    ∧ result = if fits then .ok () state else .error .rowsExhausted state)
  ∨ ∃ err state, Refused start shape.rows err state.consumer ∧ result = .error err state

variable {start : κ} {shape : Shape} {sheet : Sheet} {state : RowState κ}

namespace Lands

variable {fits : Prop} [Decidable fits]

/-- With a consumer that accepts all rows, an operation ends with a sheet. -/
theorem of_accepts {result : EStateM.Result RasterError (RowState κ) Unit}
    (lands : Lands start shape fits sheet result) (accepts : Accepts start shape.rows) :
    ∃ state, Holds start shape sheet state
      ∧ result = if fits then .ok () state else .error .rowsExhausted state := by
  obtain held | ⟨err, state, refused, -⟩ := lands
  · exact held
  · exact absurd refused accepts.not_refused

/-- Only whether something fits matters, not why. -/
theorem of_iff {fits' : Prop} [Decidable fits']
    {result : EStateM.Result RasterError (RowState κ) Unit}
    (lands : Lands start shape fits sheet result) (same : fits ↔ fits') :
    Lands start shape fits' sheet result := by
  obtain ⟨state, holds, landed⟩ | refused := lands
  · refine .inl ⟨state, holds, ?_⟩
    rw [landed]
    exact ite_congr (propext same) (fun _ => rfl) (fun _ => rfl)
  · exact .inr refused

/-- An operation followed by another one. If the first one runs out of
room, then the second one has nothing to write on. -/
theorem bind {step : RowM κ Unit} {next : Unit → RowM κ Unit} {fits' : Prop}
    [Decidable fits'] {sheet' : Sheet} (first : Lands start shape fits sheet (step state))
    (second : ∀ mid, Holds start shape sheet mid →
      Lands start shape fits' sheet' (next () mid))
    (stuck : ¬ fits → sheet = sheet') :
    Lands start shape (fits ∧ fits') sheet' ((step >>= next) state) := by
  obtain ⟨mid, holds, landed⟩ | ⟨err, mid, refused, failed⟩ := first
  · by_cases room : fits
    · rw [if_pos room] at landed
      rw [bind_of_ok landed]
      obtain ⟨last, holds', landed'⟩ | refused' := second mid holds
      · refine .inl ⟨last, holds', ?_⟩
        rw [landed']
        exact ite_congr (propext (and_iff_right room).symm) (fun _ => rfl) (fun _ => rfl)
      · exact .inr refused'
    · rw [if_neg room] at landed
      rw [bind_of_error landed]
      refine .inl ⟨mid, stuck room ▸ holds, ?_⟩
      rw [if_neg (fun both => room both.1)]
  · rw [bind_of_error failed]
    exact .inr ⟨err, mid, refused, rfl⟩

end Lands

/-! ## Buffers -/

section Buffers

variable (buffer : RowBuffer)

@[simp] theorem RowBuffer.isPaired_store (column : Nat) (byte : UInt8) :
    (buffer.store column byte).isPaired = buffer.isPaired := by cases buffer <;> rfl

@[simp] theorem RowBuffer.isPaired_flip : buffer.flip.isPaired = buffer.isPaired := by
  cases buffer <;> rfl

@[simp] theorem RowBuffer.isPaired_repeatPrevious :
    buffer.repeatPrevious.isPaired = buffer.isPaired := by cases buffer <;> rfl

@[simp] theorem RowBuffer.isPaired_zeroFrom (column : Nat) :
    (buffer.zeroFrom column).isPaired = buffer.isPaired := by cases buffer <;> rfl

@[simp] theorem RowBuffer.previous_repeatPrevious :
    buffer.repeatPrevious.previous = buffer.previous := by cases buffer <;> rfl

theorem RowBuffer.current_store (column : Nat) (byte : UInt8) :
    (buffer.store column byte).current = buffer.current.setIfInBounds column byte := by
  cases buffer <;> rfl

theorem RowBuffer.current_zeroFrom (column : Nat) :
    (buffer.zeroFrom column).current = zeroFrom.zeroTail column buffer.current := by
  cases buffer <;> rfl

variable {buffer}

/-- Behind a stored byte, the row above is as it was. -/
theorem RowBuffer.getElem?_previous_store {column i : Nat} (behind : column < i)
    (byte : UInt8) : (buffer.store column byte).previous[i]? = buffer.previous[i]? := by
  cases buffer with
  | single row => exact Array.getElem?_setIfInBounds_ne (by omega)
  | paired current previous => rfl

theorem RowBuffer.size_previous_store (column : Nat) (byte : UInt8) :
    (buffer.store column byte).previous.size = buffer.previous.size := by
  cases buffer with
  | single row => exact Array.size_setIfInBounds
  | paired current previous => rfl

theorem RowBuffer.size_previous_zeroFrom (column : Nat) :
    (buffer.zeroFrom column).previous.size = buffer.previous.size := by
  cases buffer with
  | single row => exact size_current_zeroFrom (.single row) column
  | paired current previous => rfl

/-- After a flip the rows of a buffer still have their length. -/
theorem RowBuffer.size_current_flip {width : Nat} (current : buffer.current.size = width)
    (previous : buffer.previous.size = width) : buffer.flip.current.size = width := by
  cases buffer with
  | single row => exact current
  | paired current previous => assumption

end Buffers

/-! ## Operations -/

namespace Carries

/-- The assembler agrees with the sheet on whether all rows are there. -/
theorem isComplete_iff (carries : Carries start shape sheet state) :
    state.assembler.isComplete = true ↔ sheet.IsComplete shape := by
  have rows : state.assembler.rows = shape.rows := congrArg Shape.rows carries.shape_eq
  unfold RowAssembler.isComplete Sheet.IsComplete
  rw [decide_eq_true_iff, carries.row, rows]

/-- **A row is handed over**, and becomes the row above the next one. -/
theorem commit_lands (carries : Carries start shape sheet state)
    (within : sheet.Within shape) (short : ¬ sheet.IsComplete shape) {row : Bytes}
    (whole : state.assembler.buffer.current = row) :
    Lands start shape True (sheet.close shape row) (RowAssembler.commit state) := by
  obtain ⟨asm, consumer⟩ := state
  unfold RowAssembler.commit
  dsimp only
  have taken := carries.handed
  cases given : RowConsumer.consume asm.row asm.buffer.current consumer with
  | error err after =>
    refine .inr ⟨err, _, ⟨sheet.completed, row, consumer, carries.handed, ?_, ?_⟩, rfl⟩
    · exact Nat.lt_of_not_le short
    · rw [← carries.row, ← whole]
      exact given
  | ok _ after =>
    -- The buffer is flipped, so the row is found above the next one.
    refine .inl ⟨_, ?_, rfl⟩
    have paired : asm.buffer.isPaired = shape.paired := congrArg Shape.paired carries.shape_eq
    exact
      { shape_eq := by
          rw [← carries.shape_eq]
          unfold RowAssembler.shape RowAssembler.nextRow
          rw [RowBuffer.isPaired_flip]
        handed := .more carries.handed (by rw [← carries.row, ← whole]; exact given)
        row := by
          show asm.row + 1 = (sheet.completed ++ [row]).length
          rw [List.length_append, List.length_singleton, ← carries.row]
        delta := by
          show (asm.delta && !asm.buffer.isPaired) = (sheet.delta && !shape.paired)
          rw [paired, ← carries.delta]
        size_current := RowBuffer.size_current_flip carries.size_current carries.size_previous
        size_previous := by
          show asm.buffer.flip.previous.size = shape.width
          rw [RowBuffer.previous_flip]
          exact carries.size_current
        toWithin := within.close short row
        column_eq := rfl
        stored := fun i none => absurd none (Nat.not_lt_zero i)
        above := fun i _ => by
          show asm.buffer.flip.previous[i]? = ((sheet.completed ++ [row]).getLast?.getD _)[i]?
          rw [RowBuffer.previous_flip, List.getLast?_append, List.getLast?_singleton,
            Option.some_or, Option.getD_some]
          exact congrArg (fun bytes : Bytes => bytes[i]?) whole }

end Carries

namespace Holds

/-- The byte that the assembler stores is the one that is written. -/
theorem combine_eq (holds : Holds start shape sheet state) (byte : UInt8) :
    state.assembler.combine byte = sheet.combine shape byte := by
  unfold RowAssembler.combine Sheet.combine
  rw [holds.delta, holds.column_eq, holds.above _ (Nat.le_refl _)]

/-- What the row in progress holds once a byte is stored. -/
theorem stored_store (holds : Holds start shape sheet state) (byte : UInt8) (i : Nat)
    (inside : i < (sheet.current ++ [sheet.combine shape byte]).length) :
    (state.assembler.store byte).buffer.current[i]?
      = (sheet.current ++ [sheet.combine shape byte])[i]? := by
  have column := holds.column
  rw [List.length_append, List.length_singleton] at inside
  show (state.assembler.buffer.store _ _).current[i]? = _
  rw [RowBuffer.current_store, holds.combine_eq, holds.column_eq,
    Array.getElem?_setIfInBounds, holds.size_current]
  by_cases before : i < sheet.current.length
  · rw [if_neg (by omega), holds.stored i before, List.getElem?_append_left before]
  · have here : i = sheet.current.length := by omega
    subst here
    rw [if_pos rfl, if_pos column, List.getElem?_concat_length]

/-- Storing a byte concerns the row in progress only. -/
theorem carries_store (holds : Holds start shape sheet state) (byte : UInt8) :
    Carries start shape sheet ⟨state.assembler.store byte, state.consumer⟩ where
  shape_eq := by
    rw [← holds.shape_eq]
    unfold RowAssembler.shape RowAssembler.store
    rw [RowBuffer.isPaired_store]
  handed := holds.handed
  row := holds.row
  delta := holds.delta
  size_current := by
    show (state.assembler.buffer.store _ _).current.size = shape.width
    rw [RowBuffer.size_current_store, holds.size_current]
  size_previous := by
    show (state.assembler.buffer.store _ _).previous.size = shape.width
    rw [RowBuffer.size_previous_store, holds.size_previous]

/-- The last byte of a row makes the buffer the row. -/
theorem current_store (holds : Holds start shape sheet state)
    (last : sheet.current.length + 1 = shape.width) (byte : UInt8) :
    (state.assembler.store byte).buffer.current
      = (sheet.current ++ [sheet.combine shape byte]).toArray := by
  have length : (sheet.current ++ [sheet.combine shape byte]).length = shape.width := by
    rw [List.length_append, List.length_singleton, last]
  refine Array.ext_getElem? fun i => ?_
  by_cases inside : i < shape.width
  · exact (holds.stored_store byte i (by rwa [length])).trans List.getElem?_toArray.symm
  · rw [Array.getElem?_eq_none, Array.getElem?_eq_none]
    · rw [List.size_toArray, length]
      exact Nat.le_of_not_lt inside
    · rw [(holds.carries_store byte).size_current]
      exact Nat.le_of_not_lt inside

/-- **Appending writes a byte**, if there is room for it. -/
theorem append_lands (holds : Holds start shape sheet state) (byte : UInt8) :
    Lands start shape (¬ sheet.IsComplete shape) (sheet.write shape byte)
      (RowAssembler.append byte state) := by
  have width : state.assembler.width = shape.width := congrArg Shape.width holds.shape_eq
  have column := holds.column
  unfold RowAssembler.append
  dsimp only
  by_cases full : sheet.IsComplete shape
  · rw [if_pos (holds.isComplete_iff.mpr full)]
    refine .inl ⟨state, ?_, (if_neg (not_not_intro full)).symm⟩
    rw [Sheet.write_of_isComplete full]
    exact holds
  · rw [if_neg (fun yes => full (holds.isComplete_iff.mp yes)),
      if_neg (by rw [width, holds.column_eq]; omega)]
    have column_store : (state.assembler.store byte).column = sheet.current.length + 1 :=
      congrArg (· + 1) holds.column_eq
    rw [column_store, show (state.assembler.store byte).width = shape.width from width]
    by_cases last : sheet.current.length + 1 = shape.width
    · -- the byte completes its row
      rw [if_pos last, Sheet.write_last full last]
      exact ((holds.carries_store byte).commit_lands holds.toWithin full
        (holds.current_store last byte)).of_iff (iff_of_true trivial full)
    · -- the row goes on
      rw [if_neg last, Sheet.write_inside full last]
      refine .inl ⟨_, ?_, (if_pos full).symm⟩
      exact
        { holds.carries_store byte with
          toWithin := by
            have within := holds.toWithin.write byte
            rwa [Sheet.write_inside full last] at within
          column_eq := by
            show (state.assembler.store byte).column = (sheet.current ++ [_]).length
            rw [column_store, List.length_append, List.length_singleton]
          stored := holds.stored_store byte
          above := fun i behind => by
            rw [List.length_append, List.length_singleton] at behind
            show (state.assembler.buffer.store state.assembler.column _).previous[i]?
              = (sheet.above shape)[i]?
            rw [RowBuffer.getElem?_previous_store (by rw [holds.column_eq]; omega)]
            exact holds.above i (by omega) }

/-- **Appending writes all bytes** that there is room for. -/
theorem appendAll_lands (holds : Holds start shape sheet state) (bytes : List UInt8) :
    Lands start shape (bytes.length ≤ sheet.room shape) (sheet.writeAll shape bytes)
      (RowAssembler.appendAll bytes state) := by
  induction bytes generalizing sheet state with
  | nil => exact .inl ⟨state, holds, (if_pos (Nat.zero_le _)).symm⟩
  | cons byte rest ih =>
    have within := holds.toWithin
    refine (Lands.bind (holds.append_lands byte) (fun mid holds' => ih holds') ?_).of_iff ?_
    · intro full
      rw [Decidable.not_not] at full
      rw [Sheet.write_of_isComplete full, Sheet.writeAll_of_isComplete full]
    · rw [within.room_write, ← within.room_eq_zero_iff, List.length_cons]
      omega

/-- Appending bytes several times is appending them one after another. -/
theorem appendRepeated_lands (holds : Holds start shape sheet state) (bytes : List UInt8)
    (count : Nat) :
    Lands start shape (count * bytes.length ≤ sheet.room shape)
      (sheet.writeAll shape (List.replicate count bytes).flatten)
      (RowAssembler.appendRepeated bytes count state) := by
  induction count generalizing sheet state with
  | zero => exact .inl ⟨state, holds, (if_pos (by rw [Nat.zero_mul]; exact Nat.zero_le _)).symm⟩
  | succ count ih =>
    have within := holds.toWithin
    rw [List.replicate_succ, List.flatten_cons, Sheet.writeAll_append]
    refine (Lands.bind (holds.appendAll_lands bytes) (fun mid holds' => ih holds') ?_).of_iff ?_
    · intro beyond
      refine (Sheet.writeAll_of_isComplete ?_ _).symm
      exact (within.isComplete_writeAll_iff bytes).mpr (by omega)
    · rw [within.room_writeAll, Nat.succ_mul]
      omega

/-- Between rows, the row above can be handed over again. -/
theorem carries_repeatPrevious (holds : Holds start shape sheet state) :
    Carries start shape sheet
      ⟨{ state.assembler with buffer := state.assembler.buffer.repeatPrevious },
        state.consumer⟩ where
  shape_eq := by
    rw [← holds.shape_eq]
    unfold RowAssembler.shape
    dsimp only
    rw [RowBuffer.isPaired_repeatPrevious]
  handed := holds.handed
  row := holds.row
  delta := holds.delta
  size_current := by
    show state.assembler.buffer.repeatPrevious.current.size = shape.width
    rw [RowBuffer.current_repeatPrevious, holds.size_previous]
  size_previous := by
    show state.assembler.buffer.repeatPrevious.previous.size = shape.width
    rw [RowBuffer.previous_repeatPrevious, holds.size_previous]

/-- Between rows all of the row above is known, also in a single buffer. -/
theorem previous_eq (holds : Holds start shape sheet state) (fresh : sheet.current = []) :
    state.assembler.buffer.previous = sheet.above shape :=
  Array.ext_getElem? fun i => holds.above i (by rw [fresh]; exact Nat.zero_le i)

theorem resubmit_lands (holds : Holds start shape sheet state) (fresh : sheet.current = [])
    (count : Nat) :
    Lands start shape True (sheet.repeatAbove shape count)
      (RowAssembler.resubmit count state) := by
  induction count generalizing sheet state with
  | zero => exact .inl ⟨state, holds, rfl⟩
  | succ count ih =>
    unfold RowAssembler.resubmit
    dsimp only
    by_cases full : sheet.IsComplete shape
    · rw [if_pos (holds.isComplete_iff.mpr full), Sheet.repeatAbove_of_isComplete full]
      exact .inl ⟨state, holds, rfl⟩
    · rw [if_neg (fun yes => full (holds.isComplete_iff.mp yes)),
        show sheet.repeatAbove shape (count + 1)
          = (sheet.close shape (sheet.above shape)).repeatAbove shape count from if_neg full]
      have whole : state.assembler.buffer.repeatPrevious.current = sheet.above shape := by
        rw [RowBuffer.current_repeatPrevious]
        exact holds.previous_eq fresh
      exact (Lands.bind (holds.carries_repeatPrevious.commit_lands holds.toWithin full whole)
        (fun mid holds' => ih holds' rfl) (fun no => absurd trivial no)).of_iff (and_self_iff)

/-- **Repeating rows writes the last complete one**, as often as there are
rows for it. -/
theorem repeatRow_lands (holds : Holds start shape sheet state) (fresh : sheet.current = [])
    (count : Nat) :
    Lands start shape True (sheet.repeatAbove shape count)
      (RowAssembler.repeatRow count state) := by
  have column : state.assembler.column = 0 := by
    rw [holds.column_eq, fresh, List.length_nil]
  unfold RowAssembler.repeatRow
  dsimp only
  rw [if_pos column]
  exact holds.resubmit_lands fresh count

/-- Inside a row no row can be repeated. -/
theorem repeatRow_of_current_ne_nil (holds : Holds start shape sheet state)
    (inside : sheet.current ≠ []) (count : Nat) :
    RowAssembler.repeatRow count state
      = .error (.midRowRepeat sheet.completed.length sheet.current.length) state := by
  have column : ¬ state.assembler.column = 0 := by
    rw [holds.column_eq]
    exact fun none => inside (List.eq_nil_of_length_eq_zero none)
  unfold RowAssembler.repeatRow
  dsimp only
  rw [if_neg column, holds.row, holds.column_eq]

/-- Zeroing the rest of the row in progress fills it up. -/
theorem current_zeroFrom (holds : Holds start shape sheet state) :
    (state.assembler.buffer.zeroFrom state.assembler.column).current
      = sheet.padded shape := by
  have column := holds.column
  rw [RowBuffer.current_zeroFrom]
  unfold RowBuffer.zeroFrom.zeroTail Sheet.padded
  rw [holds.column_eq, holds.size_current]
  refine Array.ext_getElem? fun i => Eq.trans ?_ List.getElem?_toArray.symm
  rw [Array.getElem?_append, List.getElem?_append, Array.getElem?_extract,
    Array.size_extract, holds.size_current, Nat.zero_add]
  by_cases inside : i < sheet.current.length
  · rw [if_pos (by omega), if_pos inside, if_pos (by omega), holds.stored i inside]
  · rw [if_neg (by omega), if_neg inside, Array.getElem?_replicate, List.getElem?_replicate,
      Nat.min_eq_left (by omega), Nat.sub_zero]

theorem carries_zeroFrom (holds : Holds start shape sheet state) :
    Carries start shape sheet
      ⟨{ state.assembler with
          buffer := state.assembler.buffer.zeroFrom state.assembler.column },
        state.consumer⟩ where
  shape_eq := by
    rw [← holds.shape_eq]
    unfold RowAssembler.shape
    dsimp only
    rw [RowBuffer.isPaired_zeroFrom]
  handed := holds.handed
  row := holds.row
  delta := holds.delta
  size_current := by
    show (state.assembler.buffer.zeroFrom _).current.size = shape.width
    rw [RowBuffer.size_current_zeroFrom, holds.size_current]
  size_previous := by
    show (state.assembler.buffer.zeroFrom _).previous.size = shape.width
    rw [RowBuffer.size_previous_zeroFrom, holds.size_previous]

theorem fillRows_lands (holds : Holds start shape sheet state) (count : Nat)
    (few : sheet.completed.length + count ≤ shape.rows) :
    Lands start shape True (sheet.fill shape count) (RowAssembler.fillRows count state) := by
  induction count generalizing sheet state with
  | zero => exact .inl ⟨state, holds, rfl⟩
  | succ count ih =>
    have short : ¬ sheet.IsComplete shape := by
      unfold Sheet.IsComplete
      omega
    refine (Lands.bind (holds.carries_zeroFrom.commit_lands holds.toWithin short
      holds.current_zeroFrom) (fun mid holds' => ih holds' ?_)
      (fun no => absurd trivial no)).of_iff (and_self_iff)
    show (sheet.completed ++ [_]).length + count ≤ shape.rows
    rw [List.length_append, List.length_singleton]
    omega

/-- What is filled up are the rows that the sheet lacks. -/
theorem fillRemaining_eq (holds : Holds start shape sheet state) :
    RowAssembler.fillRemaining state
      = (RowAssembler.fillRows (shape.rows - sheet.completed.length) >>= fun _ =>
          pure (shape.rows - sheet.completed.length)) state := by
  have rows : state.assembler.rows = shape.rows := congrArg Shape.rows holds.shape_eq
  rw [← rows, ← holds.row]
  rfl

/-- **Filling up hands the whole frame over**: zeros wherever nothing was
written. -/
theorem fillRemaining_lands (holds : Holds start shape sheet state) :
    (∃ count state', RowAssembler.fillRemaining state = .ok count state'
      ∧ Handed start (sheet.frame shape) state'.consumer)
    ∨ ∃ err state', RowAssembler.fillRemaining state = .error err state'
      ∧ Refused start shape.rows err state'.consumer := by
  have within := holds.rows
  have filled := holds.fillRows_lands (shape.rows - sheet.completed.length) (by omega)
  rw [holds.fillRemaining_eq]
  obtain ⟨state', holds', done⟩ | ⟨err, state', refused, failed⟩ := filled
  · have handed := holds'.handed
    rw [holds.completed_fill] at handed
    exact .inl ⟨_, state', bind_of_ok done, handed⟩
  · exact .inr ⟨err, state', bind_of_error failed, refused⟩

/-- Switching the delta mode of the assembler switches that of the sheet. -/
theorem toggleDelta (holds : Holds start shape sheet state) :
    Holds start shape { sheet with delta := !sheet.delta }
      ⟨state.assembler.toggleDelta, state.consumer⟩ :=
  { holds with
    delta := congrArg (!·) holds.delta
    toWithin := ⟨holds.rows, holds.column⟩ }

/-- **A new assembler holds the empty sheet.** -/
theorem of_make {width rows : Nat} {paired : Bool} {asm : RowAssembler}
    (made : RowAssembler.make width rows paired = .ok asm) (consumer : κ) :
    Holds consumer ⟨width, rows, paired⟩ {} ⟨asm, consumer⟩ := by
  unfold RowAssembler.make at made
  split at made
  · cases made
  · next wide =>
    split at made
    · cases made
      have size : (Array.replicate width (0 : UInt8)).size = width := Array.size_replicate
      cases paired <;> exact
        { shape_eq := rfl
          handed := .none
          row := rfl
          delta := rfl
          size_current := size
          size_previous := size
          rows := Nat.zero_le rows
          column := Nat.pos_of_ne_zero wide
          column_eq := rfl
          stored := fun i none => absurd none (Nat.not_lt_zero i)
          above := fun i _ => rfl }
    · cases made

/-- Packed rows are read into all rows of an empty sheet. -/
theorem decodeRows_none {σ : Type} [ByteSource σ] {session : Session σ κ}
    (holds : Holds start shape {} session.rows) :
    FrameFormat.decodeRows .none session
      = FrameFormat.decodePacked shape.width shape.rows session := by
  have width : session.rows.assembler.width = shape.width := congrArg Shape.width holds.shape_eq
  have rows : session.rows.assembler.rows = shape.rows := congrArg Shape.rows holds.shape_eq
  have none : session.rows.assembler.row = 0 := holds.row
  unfold FrameFormat.decodeRows
  dsimp only
  rw [bind_of_ok session.assembler_eq, width, rows, none, Nat.sub_zero]

end Holds

end WpgRaster
