import WpgRaster.Proofs.Row.Log
import WpgRaster.Row.Operation

/-!
# Refused rows

A consumer may refuse any row at any time, also one that it would take the next time. The
operation that offered the row fails then, and the row stays in progress: it is not counted, and
the next row that is offered has its index again. So the rows that were taken are always rows 0,
1, and so on, with refusals in between (`Offered`), and the assembler counts them (`Stands`).

Two things may happen to a row that was refused before it is taken. If a byte had completed it,
then it is full, and has no place for another byte: to append one is an overrun, which ends the
program. Nothing else overruns a row. Whatever is asked of it, a full row stays what it is, and
filling up offers it once more.

If it was refused as a repeated row, or as one that was filled up, then it is not full. Its column
is what it was before, and the next operation works from there as on any row in progress. What it
makes of the row is said by `RowOp.remade`. Bytes are written over it from the column on, filling
up makes its bytes zero from there on, and at column 0 a repetition puts the row above in its
place. The delta mode leaves the row alone, and so does a repetition behind column 0, which fails.
So a row like that may be dropped, and another one is offered in its stead. It is kept by an
operation exactly if that makes the same row of it. `RowOp.perform_overruns_iff` states all of this.
-/

namespace WpgRaster

variable {κ : Type} [RowConsumer κ] {start : κ}

/-! ## Rows offered -/

/-- **Rows offered**: the consumer that `start` becomes by taking the rows, one after another, as
rows 0, 1, and so on, and by refusing what it was offered in their places before. -/
inductive Offered (start : κ) : List Bytes → κ → Prop
  /-- No row yet. -/
  | none : Offered start [] start
  /-- One more row, which is taken. -/
  | taken {rows : List Bytes} {row : Bytes} {before after : κ} :
    Offered start rows before →
    RowConsumer.consume rows.length row before = .ok () after →
    Offered start (rows ++ [row]) after
  /-- One more row, which is refused. -/
  | refused {rows : List Bytes} {row : Bytes} {before after : κ} {err : RasterError} :
    Offered start rows before →
    RowConsumer.consume rows.length row before = .error err after →
    Offered start rows after

/-- **The next row refused**: behind the rows that were taken, the consumer refused one. -/
def RefusedNext (start : κ) (taken : List Bytes) (row : Bytes) (err : RasterError)
    (consumer : κ) : Prop :=
  ∃ before, Offered start taken before
    ∧ RowConsumer.consume taken.length row before = .error err consumer

/-- **What an assembler keeps** whatever the consumer does: its consumer took as many rows as it
counts, and the rows of its buffer have their length. -/
structure Tallies (start : κ) (width rows : Nat) (taken : List Bytes) (state : RowState κ) :
    Prop where
  /-- A row has columns. -/
  wide : 0 < width
  /-- The assembler is made for rows of this length -/
  width_eq : state.assembler.width = width
  /-- and for as many of them. -/
  rows_eq : state.assembler.rows = rows
  /-- The rows went to the consumer. -/
  offered : Offered start taken state.consumer
  /-- The assembler counts those that were taken. -/
  row_eq : state.assembler.row = taken.length
  /-- There are no more of them than there should be. -/
  row_le : taken.length ≤ rows
  /-- The row in progress has its length from the beginning. -/
  size_current : state.assembler.buffer.current.size = width
  /-- So has the row above. -/
  size_previous : state.assembler.buffer.previous.size = width
  /-- The row in progress has no byte too many. -/
  column_le : state.assembler.column ≤ width

/-- **An assembler between two operations**: if the row in progress is full, then because the
consumer refused it. -/
structure Stands (start : κ) (width rows : Nat) (taken : List Bytes) (state : RowState κ) : Prop
    extends Tallies start width rows taken state where
  /-- A full row was refused, and there is still a place for it. -/
  refused : state.assembler.column = width → taken.length < rows
    ∧ ∃ err consumer, RefusedNext start taken state.assembler.buffer.current err consumer

/-- Errors that an assembler has of its own. -/
inductive RasterError.OfAssembler : RasterError → Prop
  /-- All rows are there. -/
  | rowsExhausted : OfAssembler .rowsExhausted
  /-- The row in progress is full. -/
  | rowOverrun (row : Nat) : OfAssembler (.rowOverrun row)
  /-- A row was to be repeated inside of one. -/
  | midRowRepeat (row column : Nat) : OfAssembler (.midRowRepeat row column)

/-- **How an operation ends** on an assembler whose consumer took some rows: it stands again, with
all of these rows and perhaps more. If it failed, then either the assembler says why, or the row
in progress is the one that the consumer refused. -/
def Concludes {α : Type} (start : κ) (width rows : Nat) (taken : List Bytes) :
    EStateM.Result RasterError (RowState κ) α → Prop
  | .ok _ state => ∃ more, Stands start width rows (taken ++ more) state
  | .error err state => ∃ more, Stands start width rows (taken ++ more) state
    ∧ (err.OfAssembler
      ∨ RefusedNext start (taken ++ more) state.assembler.buffer.current err state.consumer)

/-- An operation that **overruns** the row in progress. -/
def Overruns {α : Type} (result : EStateM.Result RasterError (RowState κ) α) : Prop :=
  ∃ row state, result = .error (.rowOverrun row) state

/-- A consumer that never speaks of an overrun: it knows rows as a whole only. -/
def Discreet (κ : Type) [RowConsumer κ] : Prop :=
  ∀ row bytes (before : κ) index after,
    RowConsumer.consume row bytes before ≠ .error (.rowOverrun index) after

variable {width rows : Nat} {taken : List Bytes} {state : RowState κ} {α β : Type}

/-! ## How operations end -/

namespace Concludes

theorem refl (stands : Stands start width rows taken state) (a : α) :
    Concludes start width rows taken (.ok a state) :=
  ⟨[], by rwa [List.append_nil]⟩

theorem of_assembler (stands : Stands start width rows taken state) {err : RasterError}
    (own : err.OfAssembler) :
    Concludes start width rows taken
      (.error err state : EStateM.Result RasterError (RowState κ) α) :=
  ⟨[], by rwa [List.append_nil], .inl own⟩

/-- Rows that were taken stay taken. -/
theorem of_append {more : List Bytes} {result : EStateM.Result RasterError (RowState κ) α}
    (ends : Concludes start width rows (taken ++ more) result) :
    Concludes start width rows taken result := by
  cases result with
  | ok a state =>
    obtain ⟨others, stands⟩ := ends
    exact ⟨more ++ others, by rwa [← List.append_assoc]⟩
  | error err state =>
    obtain ⟨others, stands, why⟩ := ends
    exact ⟨more ++ others, by rwa [← List.append_assoc], by rwa [← List.append_assoc]⟩

theorem bind {step : RowM κ α} {next : α → RowM κ β}
    (first : Concludes start width rows taken (step state))
    (second : ∀ a mid more, step state = .ok a mid → Stands start width rows (taken ++ more) mid →
      Concludes start width rows (taken ++ more) (next a mid)) :
    Concludes start width rows taken ((step >>= next) state) := by
  cases ran : step state with
  | ok a mid =>
    rw [ran] at first
    obtain ⟨more, stands⟩ := first
    rw [bind_of_ok ran]
    exact (second a mid more ran stands).of_append
  | error err mid =>
    rw [ran] at first
    rw [bind_of_error ran]
    exact first

end Concludes

/-- **A row that is offered** is taken, or stays in progress. -/
theorem Tallies.commit (tallies : Tallies start width rows taken state)
    (short : taken.length < rows) :
    Concludes start width rows taken (RowAssembler.commit state) := by
  obtain ⟨asm, consumer⟩ := state
  have offered := tallies.offered
  unfold RowAssembler.commit
  dsimp only
  cases given : RowConsumer.consume asm.row asm.buffer.current consumer with
  | error err after =>
    rw [tallies.row_eq] at given
    have refused : RefusedNext start taken asm.buffer.current err after := ⟨_, offered, given⟩
    refine ⟨[], ?_, .inr ?_⟩
    · rw [List.append_nil]
      exact
        { tallies with
          offered := .refused offered given
          refused := fun _ => ⟨short, _, _, refused⟩ }
    · rwa [List.append_nil]
  | ok _ after =>
    rw [tallies.row_eq] at given
    exact ⟨[asm.buffer.current],
      { wide := tallies.wide
        width_eq := tallies.width_eq
        rows_eq := tallies.rows_eq
        offered := .taken offered given
        row_eq := by
          show asm.row + 1 = (taken ++ [asm.buffer.current]).length
          rw [List.length_append, List.length_singleton, ← tallies.row_eq]
        row_le := by
          rw [List.length_append, List.length_singleton]
          exact short
        size_current := RowBuffer.size_current_flip tallies.size_current tallies.size_previous
        size_previous := by
          show asm.buffer.flip.previous.size = width
          rw [RowBuffer.previous_flip]
          exact tallies.size_current
        column_le := Nat.zero_le width
        refused := fun full => absurd full (Nat.ne_of_lt tallies.wide) }⟩

/-- The row that was taken is behind the assembler. -/
theorem RowAssembler.assembler_of_commit_ok {a : Unit} {state' : RowState κ}
    (ran : RowAssembler.commit state = .ok a state') :
    state'.assembler = state.assembler.nextRow := by
  unfold RowAssembler.commit at ran
  dsimp only at ran
  split at ran
  · cases ran
    rfl
  · cases ran

/-- Behind the end of a row, there is nothing to zero. -/
theorem RowBuffer.zeroFrom_of_size_le {buffer : RowBuffer} {column : Nat}
    (whole : buffer.current.size ≤ column) : buffer.zeroFrom column = buffer := by
  have same : ∀ row : Bytes, row.size ≤ column → zeroFrom.zeroTail column row = row := by
    intro row beyond
    unfold zeroFrom.zeroTail
    rw [Nat.sub_eq_zero_of_le beyond, Array.replicate_zero, Array.append_empty,
      Array.extract_eq_self_of_le beyond]
  cases buffer with
  | single row => exact congrArg single (same row whole)
  | paired current previous => exact congrArg (paired · previous) (same current whole)

namespace Stands

variable (stands : Stands start width rows taken state)

include stands

/-- All rows are there if they were taken. -/
theorem isComplete_iff : state.assembler.isComplete = true ↔ rows ≤ taken.length := by
  unfold RowAssembler.isComplete
  rw [decide_eq_true_iff, stands.rows_eq, stands.row_eq]

theorem append (byte : UInt8) :
    Concludes start width rows taken (RowAssembler.append byte state) := by
  unfold RowAssembler.append
  dsimp only
  by_cases full : state.assembler.isComplete = true
  · rw [if_pos full]
    exact .of_assembler stands .rowsExhausted
  rw [if_neg full]
  by_cases overrun : state.assembler.width ≤ state.assembler.column
  · rw [if_pos overrun]
    exact .of_assembler stands (.rowOverrun _)
  rw [if_neg overrun]
  have short : taken.length < rows :=
    Nat.lt_of_not_le fun all => full (stands.isComplete_iff.mpr all)
  have width_eq := stands.width_eq
  have stored : Tallies start width rows taken ⟨state.assembler.store byte, state.consumer⟩ :=
    { stands.toTallies with
      size_current := by
        show (state.assembler.buffer.store _ _).current.size = width
        rw [RowBuffer.size_current_store, stands.size_current]
      size_previous := by
        show (state.assembler.buffer.store _ _).previous.size = width
        rw [RowBuffer.size_previous_store, stands.size_previous]
      column_le := by
        show state.assembler.column + 1 ≤ width
        omega }
  split
  · exact stored.commit short
  · next inside =>
    have unfilled : (state.assembler.store byte).column ≠ width :=
      fun full => inside (full.trans stored.width_eq.symm)
    exact .refl { stored with refused := fun full => absurd full unfilled } _

theorem appendAll (bytes : List UInt8) :
    Concludes start width rows taken (RowAssembler.appendAll bytes state) := by
  induction bytes generalizing taken state with
  | nil => exact .refl stands _
  | cons byte rest ih => exact (stands.append byte).bind fun _ _ _ _ stands' => ih stands'

theorem resubmit (count : Nat) :
    Concludes start width rows taken (RowAssembler.resubmit count state) := by
  induction count generalizing taken state with
  | zero => exact .refl stands _
  | succ count ih =>
    unfold RowAssembler.resubmit
    dsimp only
    by_cases full : state.assembler.isComplete = true
    · rw [if_pos full]
      exact .refl stands _
    rw [if_neg full]
    have repeated : Tallies start width rows taken
        ⟨{ state.assembler with buffer := state.assembler.buffer.repeatPrevious },
          state.consumer⟩ :=
      { stands.toTallies with
        size_current := by
          show state.assembler.buffer.repeatPrevious.current.size = width
          rw [RowBuffer.current_repeatPrevious, stands.size_previous]
        size_previous := by
          show state.assembler.buffer.repeatPrevious.previous.size = width
          rw [RowBuffer.previous_repeatPrevious, stands.size_previous] }
    exact (repeated.commit (Nat.lt_of_not_le fun all => full (stands.isComplete_iff.mpr all))).bind
      fun _ _ _ _ stands' => ih stands'

theorem repeatRow (count : Nat) :
    Concludes start width rows taken (RowAssembler.repeatRow count state) := by
  unfold RowAssembler.repeatRow
  dsimp only
  split
  · exact stands.resubmit count
  · exact .of_assembler stands (.midRowRepeat _ _)

theorem fillRows (count : Nat) (few : taken.length + count ≤ rows) :
    Concludes start width rows taken (RowAssembler.fillRows count state) := by
  induction count generalizing taken state with
  | zero => exact .refl stands _
  | succ count ih =>
    have zeroed : Tallies start width rows taken
        ⟨{ state.assembler with
            buffer := state.assembler.buffer.zeroFrom state.assembler.column },
          state.consumer⟩ :=
      { stands.toTallies with
        size_current := by
          show (state.assembler.buffer.zeroFrom _).current.size = width
          rw [RowBuffer.size_current_zeroFrom, stands.size_current]
        size_previous := by
          show (state.assembler.buffer.zeroFrom _).previous.size = width
          rw [RowBuffer.size_previous_zeroFrom, stands.size_previous] }
    refine (zeroed.commit (by omega)).bind fun _ mid more ran stands' => ih stands' ?_
    have next : mid.assembler.row = state.assembler.row + 1 :=
      congrArg RowAssembler.row (RowAssembler.assembler_of_commit_ok ran)
    rw [stands'.row_eq, stands.row_eq] at next
    omega

theorem fillRemaining : Concludes start width rows taken (RowAssembler.fillRemaining state) := by
  show Concludes start width rows taken
    ((RowAssembler.fillRows (state.assembler.rows - state.assembler.row) >>= fun _ =>
      pure (state.assembler.rows - state.assembler.row)) state)
  have row_le := stands.row_le
  rw [stands.rows_eq, stands.row_eq]
  exact (stands.fillRows _ (by omega)).bind fun _ _ _ _ stands' => .refl stands' _

/-- **Every operation leaves an assembler that stands.** -/
theorem perform (op : RowOp) : Concludes start width rows taken (op.perform state) := by
  cases op with
  | append byte => exact (stands.append byte).bind fun _ _ _ _ stands' => .refl stands' _
  | appendAll bytes => exact (stands.appendAll bytes).bind fun _ _ _ _ stands' => .refl stands' _
  | toggleDelta =>
    have toggled : Stands start width rows taken
        ⟨state.assembler.toggleDelta, state.consumer⟩ := { stands with refused := stands.refused }
    exact .refl toggled _
  | repeatRow count => exact (stands.repeatRow count).bind fun _ _ _ _ stands' => .refl stands' _
  | fillRemaining => exact stands.fillRemaining.bind fun _ _ _ _ stands' => .refl stands' _

/-- So does any sequence of operations. -/
theorem performAll (ops : List RowOp) :
    ∃ more, Stands start width rows (taken ++ more) (RowOp.performAll ops state) := by
  induction ops generalizing taken state with
  | nil => exact ⟨[], by rwa [List.append_nil]⟩
  | cons op ops ih =>
    have ends := stands.perform op
    unfold RowOp.performAll
    cases ran : op.perform state with
    | ok _ mid =>
      rw [ran] at ends
      obtain ⟨more, stands'⟩ := ends
      obtain ⟨others, last⟩ := ih stands'
      exact ⟨more ++ others, by rwa [← List.append_assoc]⟩
    | error _ mid =>
      rw [ran] at ends
      obtain ⟨more, stands', -⟩ := ends
      obtain ⟨others, last⟩ := ih stands'
      exact ⟨more ++ others, by rwa [← List.append_assoc]⟩

/-- **Filling up offers a full row once more**, as it is, and then the others. -/
theorem fillRemaining_of_full (full : state.assembler.column = width) :
    RowAssembler.fillRemaining state
      = (do
          RowAssembler.commit
          RowAssembler.fillRows (rows - taken.length - 1)
          return rows - taken.length : RowM κ Nat) state := by
  obtain ⟨short, -⟩ := stands.refused full
  obtain ⟨count, missing⟩ : ∃ count, rows - taken.length = count + 1 :=
    ⟨rows - taken.length - 1, by omega⟩
  have whole : state.assembler.buffer.zeroFrom state.assembler.column = state.assembler.buffer :=
    RowBuffer.zeroFrom_of_size_le (Nat.le_of_eq (stands.size_current.trans full.symm))
  show (RowAssembler.fillRows (state.assembler.rows - state.assembler.row) >>= fun _ =>
      pure (state.assembler.rows - state.assembler.row)) state = _
  rw [stands.rows_eq, stands.row_eq, missing, Nat.add_sub_cancel]
  -- the row in progress is whole, so it is offered as it is
  have first : RowAssembler.fillRows (count + 1) state
      = (RowAssembler.commit >>= fun _ => RowAssembler.fillRows count) state := by
    show (RowAssembler.commit >>= fun _ => RowAssembler.fillRows count) ⟨{ state.assembler with
      buffer := state.assembler.buffer.zeroFrom state.assembler.column }, state.consumer⟩ = _
    rw [whole]
  have both : (RowAssembler.fillRows (count + 1) >>= fun _ => (pure (count + 1) : RowM κ Nat)) state
      = ((RowAssembler.commit >>= fun _ => RowAssembler.fillRows count) >>= fun _ =>
          (pure (count + 1) : RowM κ Nat)) state := by
    show EStateM.bind _ _ state = EStateM.bind _ _ state
    unfold EStateM.bind
    rw [first]
  rw [both, bind_assoc]

omit stands in
/-- A new assembler stands, and no row was taken. -/
theorem of_make {paired : Bool} {asm : RowAssembler}
    (made : RowAssembler.make width rows paired = .ok asm) (start : κ) :
    Stands start width rows [] ⟨asm, start⟩ := by
  have holds := Holds.of_make made start
  have shape_eq := holds.shape_eq
  have wide : 0 < width := holds.column
  have column : asm.column = 0 := holds.column_eq
  exact
    { wide
      width_eq := congrArg Shape.width shape_eq
      rows_eq := congrArg Shape.rows shape_eq
      offered := .none
      row_eq := holds.row
      row_le := Nat.zero_le rows
      size_current := holds.size_current
      size_previous := holds.size_previous
      column_le := by
        show asm.column ≤ width
        omega
      refused := fun full => absurd (column.symm.trans full) (Nat.ne_of_lt wide) }

end Stands

/-! ## Overruns -/

namespace Overruns

omit [RowConsumer κ] in
/-- A sequence of two steps overruns in one of them. -/
theorem bind_iff {step : RowM κ α} {next : α → RowM κ β} :
    Overruns ((step >>= next) state)
      ↔ Overruns (step state) ∨ ∃ a mid, step state = .ok a mid ∧ Overruns (next a mid) := by
  cases ran : step state with
  | ok a mid =>
    rw [bind_of_ok ran]
    refine ⟨fun overruns => .inr ⟨a, mid, rfl, overruns⟩, ?_⟩
    rintro (⟨_, _, failed⟩ | ⟨_, _, same, overruns⟩)
    · cases failed
    · cases same
      exact overruns
  | error err mid =>
    rw [bind_of_error ran]
    refine ⟨fun ⟨row, after, failed⟩ => .inl ⟨row, after, ?_⟩, ?_⟩
    · cases failed
      rfl
    · rintro (⟨row, after, failed⟩ | ⟨_, _, same, -⟩)
      · cases failed
        exact ⟨row, _, rfl⟩
      · cases same

omit [RowConsumer κ] in
/-- An answer made of another one overruns with it. -/
theorem andThen_pure_iff {step : RowM κ α} {b : α → β} :
    Overruns ((step >>= fun a => Pure.pure (b a)) state) ↔ Overruns (step state) := by
  refine bind_iff.trans (or_iff_left ?_)
  rintro ⟨_, _, -, _, _, failed⟩
  cases failed

end Overruns

namespace Discreet

variable (discreet : Discreet κ)

include discreet

/-- A row is offered without an overrun, -/
theorem commit (state : RowState κ) : ¬ Overruns (RowAssembler.commit state) := by
  rintro ⟨row, after, failed⟩
  unfold RowAssembler.commit at failed
  dsimp only at failed
  cases given : RowConsumer.consume state.assembler.row state.assembler.buffer.current
      state.consumer with
  | ok _ _ =>
    rw [given] at failed
    cases failed
  | error err consumer =>
    rw [given] at failed
    cases failed
    exact discreet _ _ _ _ _ given

/-- and so are rows that are repeated -/
theorem repeatRow (count : Nat) (state : RowState κ) :
    ¬ Overruns (RowAssembler.repeatRow count state) := by
  have resubmit : ¬ Overruns (RowAssembler.resubmit count state) := by
    induction count generalizing state with
    | zero =>
      rintro ⟨_, _, failed⟩
      cases failed
    | succ count ih =>
      unfold RowAssembler.resubmit
      dsimp only
      split
      · rintro ⟨_, _, failed⟩
        cases failed
      · rw [Overruns.bind_iff]
        rintro (overruns | ⟨_, mid, -, overruns⟩)
        · exact discreet.commit _ overruns
        · exact ih mid overruns
  unfold RowAssembler.repeatRow
  dsimp only
  split
  · exact resubmit
  · rintro ⟨_, _, failed⟩
    cases failed

/-- or filled up. -/
theorem fillRemaining (state : RowState κ) : ¬ Overruns (RowAssembler.fillRemaining state) := by
  have fillRows : ∀ count (state : RowState κ), ¬ Overruns (RowAssembler.fillRows count state) := by
    intro count
    induction count with
    | zero =>
      rintro _ ⟨_, _, failed⟩
      cases failed
    | succ count ih =>
      intro state
      unfold RowAssembler.fillRows
      dsimp only
      rw [Overruns.bind_iff]
      rintro (overruns | ⟨_, mid, -, overruns⟩)
      · exact discreet.commit _ overruns
      · exact ih mid overruns
  show ¬ Overruns ((RowAssembler.fillRows (state.assembler.rows - state.assembler.row) >>= fun _ =>
    pure (state.assembler.rows - state.assembler.row)) state)
  rw [Overruns.andThen_pure_iff]
  exact fillRows _ _

end Discreet

/-- Operations that append a byte. -/
def RowOp.Appends : RowOp → Prop
  | append _ => True
  | appendAll bytes => bytes ≠ []
  | _ => False

instance : (op : RowOp) → Decidable op.Appends
  | .append _ => isTrue trivial
  | .appendAll bytes => inferInstanceAs (Decidable (bytes ≠ []))
  | .toggleDelta | .repeatRow _ | .fillRemaining => isFalse id

namespace Stands

variable (stands : Stands start width rows taken state) (discreet : Discreet κ)

include stands

/-- A byte that finds its place leaves the row short of one, or begins the next one. -/
theorem column_lt_of_append_ok {byte : UInt8} {a : Unit} {state' : RowState κ}
    (ran : RowAssembler.append byte state = .ok a state') : state'.assembler.column < width := by
  have width_eq := stands.width_eq
  have wide := stands.wide
  unfold RowAssembler.append at ran
  dsimp only at ran
  split at ran
  · cases ran
  split at ran
  · cases ran
  · next place =>
    split at ran
    · rw [RowAssembler.assembler_of_commit_ok ran]
      exact wide
    · next inside =>
      cases ran
      have column : (state.assembler.store byte).column = state.assembler.column + 1 := rfl
      have same : (state.assembler.store byte).width = state.assembler.width := rfl
      rw [column, same] at inside
      show (state.assembler.store byte).column < width
      omega

include discreet

/-- **A byte is too much exactly if the row in progress is full.** -/
theorem append_overruns_iff (byte : UInt8) :
    Overruns (RowAssembler.append byte state) ↔ state.assembler.column = width := by
  have width_eq := stands.width_eq
  have column_le := stands.column_le
  unfold RowAssembler.append
  dsimp only
  by_cases full : state.assembler.isComplete = true
  · rw [if_pos full]
    refine iff_of_false (fun ⟨_, _, failed⟩ => nomatch failed) fun last => ?_
    exact Nat.not_le_of_lt (stands.refused last).1 (stands.isComplete_iff.mp full)
  rw [if_neg full]
  by_cases overrun : state.assembler.width ≤ state.assembler.column
  · rw [if_pos overrun]
    exact iff_of_true ⟨_, _, rfl⟩ (by omega)
  · rw [if_neg overrun]
    refine iff_of_false ?_ (by omega)
    split
    · exact discreet.commit _
    · rintro ⟨_, _, failed⟩
      cases failed

theorem appendAll_overruns_iff (bytes : List UInt8) :
    Overruns (RowAssembler.appendAll bytes state)
      ↔ bytes ≠ [] ∧ state.assembler.column = width := by
  induction bytes generalizing taken state with
  | nil => exact iff_of_false (fun ⟨_, _, failed⟩ => nomatch failed) fun some => some.1 rfl
  | cons byte rest ih =>
    unfold RowAssembler.appendAll
    rw [Overruns.bind_iff, stands.append_overruns_iff discreet,
      and_iff_right (List.cons_ne_nil _ _)]
    refine or_iff_left ?_
    rintro ⟨a, mid, ran, overruns⟩
    -- behind the first byte the row is not full, so the other ones do not overrun it
    have column := stands.column_lt_of_append_ok ran
    have ends := stands.append byte
    rw [ran] at ends
    obtain ⟨more, stands'⟩ := ends
    exact Nat.ne_of_lt column ((ih stands').mp overruns).2

theorem overruns_iff (op : RowOp) :
    Overruns (op.perform state) ↔ op.Appends ∧ state.assembler.column = width := by
  cases op with
  | append byte =>
    exact (Overruns.andThen_pure_iff.trans (stands.append_overruns_iff discreet byte)).trans
      (and_iff_right trivial).symm
  | appendAll bytes =>
    exact Overruns.andThen_pure_iff.trans (stands.appendAll_overruns_iff discreet bytes)
  | toggleDelta =>
    exact iff_of_false (fun ⟨_, _, failed⟩ => nomatch failed) fun appends => appends.1
  | repeatRow count =>
    exact iff_of_false (fun overruns => discreet.repeatRow count state
      (Overruns.andThen_pure_iff.mp overruns)) fun appends => appends.1
  | fillRemaining =>
    exact iff_of_false (fun overruns => discreet.fillRemaining state
      (Overruns.andThen_pure_iff.mp overruns)) fun appends => appends.1

end Stands

/-! ## The row in progress -/

/-- The row of an index, as far as it is there: one that was taken, or the row in progress, which
comes behind them. -/
def RowState.rowAt? (state : RowState (Logged κ)) (index : Nat) : Option Bytes :=
  (state.consumer.rows ++ [state.assembler.buffer.current])[index]?

/-- Stores bytes in the row in progress, as many as it has places for. -/
def RowAssembler.storeAll (asm : RowAssembler) : List UInt8 → RowAssembler
  | [] => asm
  | byte :: rest =>
    if asm.width ≤ asm.column then asm else (asm.store byte).storeAll rest

/-- **What an operation makes of the row in progress**, before it offers the row or leaves it. -/
def RowOp.remade (asm : RowAssembler) : RowOp → Bytes
  | append byte => (asm.storeAll [byte]).buffer.current
  | appendAll bytes => (asm.storeAll bytes).buffer.current
  | toggleDelta => asm.buffer.current
  | repeatRow count =>
    if asm.column = 0 ∧ 0 < count then asm.buffer.previous else asm.buffer.current
  | fillRemaining => (asm.buffer.zeroFrom asm.column).current

omit [RowConsumer κ] in
/-- The row in progress has the index of the next row. -/
theorem RowState.rowAt?_length (asm : RowAssembler) (logged : Logged κ) :
    (⟨asm, logged⟩ : RowState (Logged κ)).rowAt? logged.rows.length = some asm.buffer.current :=
  List.getElem?_concat_length

/-- A full row has no place for a byte. -/
theorem RowAssembler.storeAll_of_le {asm : RowAssembler} (full : asm.width ≤ asm.column)
    (bytes : List UInt8) : asm.storeAll bytes = asm := by
  cases bytes with
  | nil => rfl
  | cons byte rest => exact if_pos full

/-- **No operation makes another row of a full one.** -/
theorem Stands.remade_of_full (stands : Stands start width rows taken state)
    (full : state.assembler.column = width) (op : RowOp) :
    op.remade state.assembler = state.assembler.buffer.current := by
  have last : state.assembler.width ≤ state.assembler.column :=
    Nat.le_of_eq (stands.width_eq.trans full.symm)
  have wide := stands.wide
  cases op with
  | append byte => exact congrArg (·.buffer.current) (RowAssembler.storeAll_of_le last _)
  | appendAll bytes => exact congrArg (·.buffer.current) (RowAssembler.storeAll_of_le last _)
  | toggleDelta => rfl
  | repeatRow count => exact if_neg (by omega)
  | fillRemaining =>
    exact congrArg RowBuffer.current
      (RowBuffer.zeroFrom_of_size_le (Nat.le_of_eq (stands.size_current.trans full.symm)))

/-- A step that **takes no row back**. -/
def Extends (step : RowM (Logged κ) α) : Prop :=
  ∀ state, state.consumer.rows <+: (behind (step state)).consumer.rows

namespace Extends

omit [RowConsumer κ] in
theorem pure (a : α) : Extends (Pure.pure a : RowM (Logged κ) α) := fun _ => List.prefix_rfl

omit [RowConsumer κ] in
theorem bind {step : RowM (Logged κ) α} {next : α → RowM (Logged κ) β} (first : Extends step)
    (second : ∀ a, Extends (next a)) : Extends (step >>= next) := by
  intro state
  have before := first state
  cases ran : step state with
  | ok a mid =>
    rw [ran] at before
    rw [bind_of_ok ran]
    exact before.trans (second a mid)
  | error err mid =>
    rw [ran] at before
    rw [bind_of_error ran]
    exact before

theorem commit : Extends (RowAssembler.commit : RowM (Logged κ) Unit) := by
  rintro ⟨asm, ⟨consumer, entered⟩⟩
  unfold RowAssembler.commit
  dsimp only
  rw [Logged.consume_eq]
  cases RowConsumer.consume asm.row asm.buffer.current consumer with
  | ok _ after => exact List.prefix_append _ _
  | error err after => exact List.prefix_rfl

theorem append (byte : UInt8) : Extends (RowAssembler.append byte : RowM (Logged κ) Unit) := by
  rintro ⟨asm, logged⟩
  unfold RowAssembler.append
  dsimp only
  repeat' split
  · exact List.prefix_rfl
  · exact List.prefix_rfl
  · exact commit ⟨asm.store byte, logged⟩
  · exact List.prefix_rfl

theorem appendAll (bytes : List UInt8) :
    Extends (RowAssembler.appendAll bytes : RowM (Logged κ) Unit) := by
  induction bytes with
  | nil => exact pure ()
  | cons byte rest ih => exact (append byte).bind fun _ => ih

theorem resubmit (count : Nat) : Extends (RowAssembler.resubmit count : RowM (Logged κ) Unit) := by
  induction count with
  | zero => exact pure ()
  | succ count ih =>
    rintro ⟨asm, logged⟩
    unfold RowAssembler.resubmit
    dsimp only
    split
    · exact List.prefix_rfl
    · exact (commit.bind fun _ => ih)
        ⟨{ asm with buffer := asm.buffer.repeatPrevious }, logged⟩

theorem fillRows (count : Nat) : Extends (RowAssembler.fillRows count : RowM (Logged κ) Unit) := by
  induction count with
  | zero => exact pure ()
  | succ count ih =>
    rintro ⟨asm, logged⟩
    exact (commit.bind fun _ => ih)
      ⟨{ asm with buffer := asm.buffer.zeroFrom asm.column }, logged⟩

end Extends

namespace Logged

/-- The log has the rows that were taken, and the consumer was offered them too. -/
theorem of_offered {logged : Logged κ} (offered : Offered { consumer := start } taken logged) :
    logged.rows = taken ∧ Offered start taken logged.consumer := by
  induction offered with
  | none => exact ⟨rfl, .none⟩
  | taken _ accepted ih =>
    obtain ⟨ran, entered⟩ := consume_ok accepted
    exact ⟨entered.trans (congrArg (· ++ _) ih.1), .taken ih.2 ran⟩
  | refused _ rejected ih =>
    obtain ⟨ran, entered⟩ := consume_error rejected
    exact ⟨entered.trans ih.1, .refused ih.2 ran⟩

/-- With a log, an assembler stands as it does without. -/
theorem stands_of_logged {logged : RowState (Logged κ)}
    (stands : Stands { consumer := start } width rows taken logged) :
    logged.consumer.rows = taken
      ∧ Stands start width rows taken ⟨logged.assembler, logged.consumer.consumer⟩ := by
  obtain ⟨same, offered⟩ := of_offered stands.offered
  refine ⟨same, { stands with offered, refused := fun full => ?_ }⟩
  obtain ⟨short, err, after, before, earlier, rejected⟩ := stands.refused full
  exact ⟨short, err, _, _, (of_offered earlier).2, (consume_error rejected).1⟩

end Logged

/-- **A row that is offered is taken or stays in progress**, whatever comes behind. -/
theorem RowState.rowAt?_commit_bind {next : Unit → RowM (Logged κ) α}
    (onward : ∀ a, Extends (next a)) (asm : RowAssembler) (logged : Logged κ) :
    (behind ((RowAssembler.commit >>= next) ⟨asm, logged⟩)).rowAt? logged.rows.length
      = some asm.buffer.current := by
  obtain ⟨consumer, entered⟩ := logged
  cases offered : RowConsumer.consume asm.row asm.buffer.current consumer with
  | ok _ after =>
    have taken : RowAssembler.commit (⟨asm, ⟨consumer, entered⟩⟩ : RowState (Logged κ))
        = .ok () ⟨asm.nextRow, ⟨after, entered ++ [asm.buffer.current]⟩⟩ := by
      unfold RowAssembler.commit
      dsimp only
      rw [Logged.consume_eq, offered]
    rw [bind_of_ok taken]
    obtain ⟨more, same⟩ := onward () ⟨asm.nextRow, ⟨after, entered ++ [asm.buffer.current]⟩⟩
    unfold RowState.rowAt?
    rw [← same, List.append_assoc, List.getElem?_append_left (by simp)]
    exact List.getElem?_concat_length
  | error err after =>
    have refused : RowAssembler.commit (⟨asm, ⟨consumer, entered⟩⟩ : RowState (Logged κ))
        = .error err ⟨asm, ⟨after, entered⟩⟩ := by
      unfold RowAssembler.commit
      dsimp only
      rw [Logged.consume_eq, offered]
    rw [bind_of_error refused]
    exact rowAt?_length asm ⟨after, entered⟩

namespace RowAssembler

variable {asm : RowAssembler} (short : ¬ asm.isComplete = true) (logged : Logged κ)

include short

theorem rowAt?_appendAll (bytes : List UInt8) :
    (behind (appendAll bytes (⟨asm, logged⟩ : RowState (Logged κ)))).rowAt? logged.rows.length
      = some (asm.storeAll bytes).buffer.current := by
  induction bytes generalizing asm with
  | nil => exact RowState.rowAt?_length asm logged
  | cons byte rest ih =>
    have ran : append byte (⟨asm, logged⟩ : RowState (Logged κ))
        = if asm.width ≤ asm.column then .error (.rowOverrun asm.row) ⟨asm, logged⟩
          else if (asm.store byte).column = asm.width then commit ⟨asm.store byte, logged⟩
          else .ok () ⟨asm.store byte, logged⟩ := if_neg short
    unfold appendAll storeAll
    by_cases full : asm.width ≤ asm.column
    · rw [if_pos full] at ran ⊢
      rw [bind_of_error ran]
      exact RowState.rowAt?_length asm logged
    rw [if_neg full] at ran ⊢
    by_cases last : (asm.store byte).column = asm.width
    · -- the row is offered with this byte, and the other bytes are for the next ones
      rw [if_pos last] at ran
      rw [storeAll_of_le (Nat.le_of_eq last.symm), bind_congr_left ran]
      exact RowState.rowAt?_commit_bind (fun _ => .appendAll rest) (asm.store byte) logged
    · rw [if_neg last] at ran
      rw [bind_of_ok ran]
      exact ih short

theorem rowAt?_repeatRow (count : Nat) :
    (behind (repeatRow count (⟨asm, logged⟩ : RowState (Logged κ)))).rowAt? logged.rows.length
      = some ((RowOp.repeatRow count).remade asm) := by
  unfold repeatRow RowOp.remade
  dsimp only
  by_cases fresh : asm.column = 0
  · rw [if_pos fresh]
    cases count with
    | zero =>
      rw [if_neg fun both => absurd both.2 (Nat.lt_irrefl 0)]
      exact RowState.rowAt?_length asm logged
    | succ count =>
      rw [if_pos ⟨fresh, count.succ_pos⟩, ← RowBuffer.current_repeatPrevious]
      unfold resubmit
      dsimp only
      rw [if_neg short]
      exact RowState.rowAt?_commit_bind (fun _ => .resubmit count)
        { asm with buffer := asm.buffer.repeatPrevious } logged
  · rw [if_neg fresh, if_neg fun both => fresh both.1]
    exact RowState.rowAt?_length asm logged

theorem rowAt?_fillRemaining :
    (behind (fillRemaining (⟨asm, logged⟩ : RowState (Logged κ)))).rowAt? logged.rows.length
      = some (asm.buffer.zeroFrom asm.column).current := by
  obtain ⟨count, missing⟩ : ∃ count, asm.rows - asm.row = count + 1 := by
    unfold isComplete at short
    rw [decide_eq_true_iff] at short
    exact ⟨asm.rows - asm.row - 1, by omega⟩
  show (behind ((fillRows (asm.rows - asm.row) >>= fun _ => pure (asm.rows - asm.row))
    (⟨asm, logged⟩ : RowState (Logged κ)))).rowAt? _ = _
  rw [behind_bind_pure, missing]
  exact RowState.rowAt?_commit_bind (fun _ => .fillRows count)
    { asm with buffer := asm.buffer.zeroFrom asm.column } logged

/-- **What becomes of the row in progress**: it is taken, or it is in progress still, as what the
operation made of it. -/
theorem rowAt?_perform (op : RowOp) :
    (behind (op.perform (⟨asm, logged⟩ : RowState (Logged κ)))).rowAt? logged.rows.length
      = some (op.remade asm) := by
  cases op with
  | append byte =>
    have alone : appendAll [byte] (⟨asm, logged⟩ : RowState (Logged κ))
        = (append byte >>= fun _ => pure ()) ⟨asm, logged⟩ := rfl
    have appended := rowAt?_appendAll short logged [byte]
    rw [alone, behind_bind_pure] at appended
    rwa [RowOp.perform, behind_bind_pure]
  | appendAll bytes =>
    rw [RowOp.perform, behind_bind_pure]
    exact rowAt?_appendAll short logged bytes
  | toggleDelta => exact RowState.rowAt?_length asm.toggleDelta logged
  | repeatRow count =>
    rw [RowOp.perform, behind_bind_pure]
    exact rowAt?_repeatRow short logged count
  | fillRemaining =>
    have filled := rowAt?_fillRemaining short logged
    rwa [← behind_bind_pure fillRemaining some] at filled

end RowAssembler

namespace RowOp

/-- An operation does with a log what it does without. -/
theorem perform_simulates (op : RowOp) :
    Simulates (RowState.Related fun (consumer : κ) (logged : Logged κ) =>
      logged.consumer = consumer) op.perform op.perform := by
  cases op with
  | append byte => exact (RowAssembler.append_simulates Logged.simulates byte).bind fun _ => .pure _
  | appendAll bytes =>
    exact (RowAssembler.appendAll_simulates Logged.simulates bytes).bind fun _ => .pure _
  | toggleDelta =>
    exact fun state state' related =>
      .ok ⟨congrArg RowAssembler.toggleDelta related.assembler, related.consumer⟩
  | repeatRow count =>
    exact (RowAssembler.repeatRow_simulates Logged.simulates count).bind fun _ => .pure _
  | fillRemaining =>
    exact (RowAssembler.fillRemaining_simulates Logged.simulates).bind fun _ => .pure _

/-- So does any sequence of operations. -/
theorem related_performAll (ops : List RowOp) {state : RowState κ} {logged : RowState (Logged κ)}
    (related : RowState.Related (fun consumer logged => logged.consumer = consumer) state logged) :
    RowState.Related (fun consumer logged => logged.consumer = consumer) (performAll ops state)
      (performAll ops logged) := by
  induction ops generalizing state logged with
  | nil => exact related
  | cons op ops ih =>
    have results := op.perform_simulates state logged related
    unfold performAll
    generalize op.perform state = result, op.perform logged = result' at results
    cases results with
    | ok after => exact ih after
    | error after => exact ih after

end RowOp

/-- A log has its own error for the row that it refuses. -/
theorem RowLog.discreet : Discreet RowLog := by
  intro row bytes before index after refused
  unfold RowConsumer.consume instRowConsumer at refused
  dsimp only at refused
  split at refused <;> cases refused

namespace RowOp

/-- **What refused rows leave behind.** Behind any sequence of operations, and whatever the
consumer refused, an assembler counts the rows that were taken, and an operation that fails over
a refused row leaves it in progress. Operations never overrun a row, unless they append a byte
while the row in progress is full. This is a row that was refused, and filling up offers it once
more.

What becomes of the row in progress is told by a log of the rows that were taken, which changes
nothing else. As long as there is a place for the row, it is taken next or it is in progress still,
as what the operation made of it. An operation makes no other row of one that is full, so a row
that was refused is dropped only if it was not full, and only for what was made of it instead. -/
theorem perform_overruns_iff {paired : Bool} {asm : RowAssembler}
    (made : RowAssembler.make width rows paired = .ok asm) (discreet : Discreet κ)
    (ops : List RowOp) (op : RowOp) :
    let state := performAll ops ⟨asm, start⟩
    let logged := performAll ops ⟨asm, ({ consumer := start } : Logged κ)⟩
    let taken := logged.consumer.rows
    state = ⟨logged.assembler, logged.consumer.consumer⟩
      ∧ Stands start width rows taken state
      ∧ Concludes start width rows taken (op.perform state)
      ∧ (Overruns (op.perform state) ↔ op.Appends ∧ state.assembler.column = width)
      ∧ (state.assembler.column = width →
        RowAssembler.fillRemaining state
          = (do
              RowAssembler.commit
              RowAssembler.fillRows (rows - taken.length - 1)
              return rows - taken.length : RowM κ Nat) state)
      ∧ (taken.length < rows →
        (behind (op.perform logged)).rowAt? taken.length = some (op.remade state.assembler))
      ∧ (state.assembler.column = width →
        op.remade state.assembler = state.assembler.buffer.current) := by
  intro state logged taken
  have related : RowState.Related (fun consumer logged => logged.consumer = consumer) state
      logged := related_performAll ops ⟨rfl, rfl⟩
  have same : state = ⟨logged.assembler, logged.consumer.consumer⟩ := by
    rw [← related.assembler, related.consumer]
  obtain ⟨more, standsLogged⟩ :=
    (Stands.of_make made ({ consumer := start } : Logged κ)).performAll ops
  obtain ⟨entered, stands⟩ := Logged.stands_of_logged standsLogged
  rw [← entered, ← same] at stands
  refine ⟨same, stands, stands.perform op, stands.overruns_iff discreet op,
    stands.fillRemaining_of_full, fun short => ?_, fun full => stands.remade_of_full full op⟩
  rw [List.nil_append] at entered
  have unfinished : ¬ logged.assembler.isComplete = true := fun all => by
    have gone : rows ≤ more.length := standsLogged.isComplete_iff.mp all
    rw [← entered] at gone
    exact Nat.not_le_of_lt short gone
  rw [same]
  exact RowAssembler.rowAt?_perform unfinished logged.consumer op

/-- The second row is refused when its last byte is appended, and again when rows are filled up.
Then it can be filled up once more, and no row can be repeated, but another byte is an overrun. -/
theorem perform_overruns_iff_secondRow :
    let ops := [appendAll [1, 2, 3, 4, 5], fillRemaining]
    ∃ asm, RowAssembler.make 2 3 true = .ok asm
      ∧ ¬ Overruns (fillRemaining.perform (performAll ops ⟨asm, RowLog.refusing 1⟩))
      ∧ ¬ Overruns ((repeatRow 1).perform (performAll ops ⟨asm, RowLog.refusing 1⟩))
      ∧ Overruns ((append 5).perform (performAll ops ⟨asm, RowLog.refusing 1⟩)) := by
  intro ops
  have tells := @perform_overruns_iff RowLog _ (RowLog.refusing 1) 2 3 true _ rfl RowLog.discreet
    ops
  obtain ⟨-, -, -, filling, -⟩ := tells fillRemaining
  obtain ⟨-, -, -, repeating, -⟩ := tells (repeatRow 1)
  obtain ⟨-, -, -, appending, -⟩ := tells (append 5)
  exact ⟨_, rfl, mt filling.mp (by decide), mt repeating.mp (by decide),
    appending.mpr (by decide)⟩

/-- **Rows that are overrun, and rows that are dropped.** A row of one byte is refused, and another
byte overruns it. And a repetition of a row of one byte is refused: when rows are filled up then,
a zero is put in the place of the refused row, before anything is offered. -/
theorem perform_overruns_or_drops :
    (∃ asm, RowAssembler.make 1 1 false = .ok asm
        ∧ Overruns ((append 8).perform (performAll [append 7] ⟨asm, RowLog.refusing 0⟩)))
      ∧ ∃ asm, RowAssembler.make 1 2 false = .ok asm
        ∧ let logged := performAll [append 7, repeatRow 1]
            ⟨asm, ({ consumer := RowLog.refusing 1 } : Logged RowLog)⟩
          logged.consumer.rows = [#[7]] ∧ logged.rowAt? 1 = some #[7]
            ∧ (behind (fillRemaining.perform logged)).rowAt? 1 = some #[0] :=
  ⟨⟨_, rfl, 0, _, rfl⟩, _, rfl, by decide, by decide, by decide⟩

end RowOp

end WpgRaster
