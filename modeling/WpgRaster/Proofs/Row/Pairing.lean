import WpgRaster.Proofs.Row.Log
import WpgRaster.Proofs.Row.Writing

/-!
# One buffer or two

A paired buffer keeps the last completed row, a single buffer overwrites it. Whether this can
be noticed is asked here of any sequence of operations, with a consumer that accepts all rows:
behind each operation one looks at what it answered, at the rows handed over, and at the row,
the column and the delta mode of the assembler, and maybe also at the row above.

It can be noticed in two ways. A row that is completed while the delta mode is on ends the mode
in a paired buffer but not in a single one (`RowOp.Settles`). And inside a row, a single buffer
shows the row in progress in the place of the row above, unless the two agree so far
(`Sheet.Repeats`). `RowOp.trace_single_eq_paired_iff` says that there is no other way.
-/

namespace WpgRaster

/-! ## Assemblers with either buffer -/

variable {κ : Type} [RowConsumer κ] {start : κ} {shape : Shape} {sheet : Sheet}
  {state : RowState κ}

/-- In a paired buffer, a stored byte leaves the row above alone. -/
theorem RowBuffer.previous_store {buffer : RowBuffer} (pairs : buffer.isPaired = true)
    (column : Nat) (byte : UInt8) : (buffer.store column byte).previous = buffer.previous := by
  cases buffer with
  | single row => nomatch pairs
  | paired current previous => rfl

/-- **An assembler that keeps the row above**: it holds a sheet, and a paired buffer has the
whole row above it, also behind the bytes of the row in progress. -/
structure HoldsAbove (start : κ) (shape : Shape) (sheet : Sheet) (state : RowState κ) : Prop
    extends Holds start shape sheet state where
  /-- The row above is beside the row in progress. -/
  kept : shape.paired = true → state.assembler.buffer.previous = sheet.above shape

/-- Between rows the row above is known anyway. -/
theorem Holds.holdsAbove (holds : Holds start shape sheet state) (fresh : sheet.current = []) :
    HoldsAbove start shape sheet state :=
  ⟨holds, fun _ => holds.previous_eq fresh⟩

namespace Sheet

theorem current_repeatAbove (fresh : sheet.current = []) (count : Nat) :
    (sheet.repeatAbove shape count).current = [] := by
  induction count generalizing sheet with
  | zero => exact fresh
  | succ count ih =>
    unfold repeatAbove
    split
    · exact fresh
    · exact ih rfl

theorem current_fill_succ (count : Nat) : (sheet.fill shape (count + 1)).current = [] := by
  induction count generalizing sheet with
  | zero => rfl
  | succ count ih => exact ih

end Sheet

namespace HoldsAbove

variable (holds : HoldsAbove start shape sheet state) (accepts : Accepts start shape.rows)

include holds accepts

/-- A byte inside a row leaves the row above alone. -/
theorem append (byte : UInt8) :
    ∃ state', HoldsAbove start shape (sheet.write shape byte) state'
      ∧ RowAssembler.append byte state
        = if ¬ sheet.IsComplete shape then .ok () state' else .error .rowsExhausted state' := by
  obtain ⟨state', holds', ran⟩ := (holds.append_lands byte).of_accepts accepts
  refine ⟨state', ⟨holds', fun paired => ?_⟩, ran⟩
  have width : state.assembler.width = shape.width := congrArg Shape.width holds.shape_eq
  unfold RowAssembler.append at ran
  dsimp only at ran
  by_cases full : sheet.IsComplete shape
  · rw [if_pos (holds.isComplete_iff.mpr full), if_neg (not_not_intro full)] at ran
    cases ran
    rw [Sheet.write_of_isComplete full]
    exact holds.kept paired
  by_cases last : sheet.current.length + 1 = shape.width
  · -- a row was completed, so the next one has no byte yet
    refine holds'.previous_eq ?_
    rw [Sheet.write_last full last]
    rfl
  · have column := holds.column
    have column_store :
        (state.assembler.store byte).column ≠ (state.assembler.store byte).width := by
      show state.assembler.column + 1 ≠ state.assembler.width
      rwa [width, holds.column_eq]
    rw [if_neg fun yes => full (holds.isComplete_iff.mp yes),
      if_neg (by rw [width, holds.column_eq]; omega), if_neg column_store, if_pos full] at ran
    cases ran
    have pairs : state.assembler.buffer.isPaired = true :=
      (congrArg Shape.paired holds.shape_eq).trans paired
    rw [Sheet.write_inside full last]
    exact (RowBuffer.previous_store pairs _ _).trans (holds.kept paired)

theorem appendAll (bytes : List UInt8) :
    ∃ state', HoldsAbove start shape (sheet.writeAll shape bytes) state'
      ∧ RowAssembler.appendAll bytes state
        = if bytes.length ≤ sheet.room shape then .ok () state'
          else .error .rowsExhausted state' := by
  induction bytes generalizing sheet state with
  | nil => exact ⟨state, holds, (if_pos (Nat.zero_le _)).symm⟩
  | cons byte rest ih =>
    obtain ⟨mid, holds', ran⟩ := holds.append accepts byte
    have room := holds.room_write byte
    have none := holds.room_eq_zero_iff
    rw [Sheet.writeAll_cons, List.length_cons]
    unfold RowAssembler.appendAll
    by_cases full : sheet.IsComplete shape
    · rw [if_neg (not_not_intro full)] at ran
      rw [Sheet.write_of_isComplete full] at holds' ⊢
      rw [Sheet.writeAll_of_isComplete full, bind_of_error ran, none.mpr full]
      exact ⟨mid, holds', (if_neg (by omega)).symm⟩
    · rw [if_pos full] at ran
      obtain ⟨last, holds'', ran'⟩ := ih holds'
      have some : sheet.room shape ≠ 0 := fun zero => full (none.mp zero)
      refine ⟨last, holds'', ?_⟩
      rw [bind_of_ok ran, ran', room]
      exact ite_congr (by rw [eq_iff_iff]; omega) (fun _ => rfl) fun _ => rfl

/-- **Operations write on the sheet and answer what their names say.** -/
theorem perform (op : RowOp) :
    ∃ state', HoldsAbove start shape (op.write shape sheet) state'
      ∧ op.perform state = (ofExcept (op.answer shape sheet) : RowM κ (Option Nat)) state' := by
  cases op with
  | append byte =>
    obtain ⟨state', holds', ran⟩ := holds.append accepts byte
    refine ⟨state', holds', ?_⟩
    have answers : (RowOp.append byte).answer shape sheet
      = if sheet.IsComplete shape then .error .rowsExhausted else .ok none := rfl
    by_cases full : sheet.IsComplete shape
    · rw [if_neg (not_not_intro full)] at ran
      rw [answers, if_pos full]
      exact bind_of_error ran
    · rw [if_pos full] at ran
      rw [answers, if_neg full]
      exact bind_of_ok ran
  | appendAll bytes =>
    obtain ⟨state', holds', ran⟩ := holds.appendAll accepts bytes
    refine ⟨state', holds', ?_⟩
    have answers : (RowOp.appendAll bytes).answer shape sheet
      = if bytes.length ≤ sheet.room shape then .ok none else .error .rowsExhausted := rfl
    by_cases fits : bytes.length ≤ sheet.room shape
    · rw [if_pos fits] at ran
      rw [answers, if_pos fits]
      exact bind_of_ok ran
    · rw [if_neg fits] at ran
      rw [answers, if_neg fits]
      exact bind_of_error ran
  | toggleDelta => exact ⟨_, ⟨holds.toggleDelta, holds.kept⟩, rfl⟩
  | repeatRow count =>
    have answers : (RowOp.repeatRow count).answer shape sheet
      = if sheet.current = [] then .ok none
        else .error (.midRowRepeat sheet.completed.length sheet.current.length) := rfl
    have writes : (RowOp.repeatRow count).write shape sheet
      = if sheet.current = [] then sheet.repeatAbove shape count else sheet := rfl
    by_cases fresh : sheet.current = []
    · obtain ⟨state', holds', ran⟩ := (holds.repeatRow_lands fresh count).of_accepts accepts
      rw [if_pos trivial] at ran
      rw [answers, writes, if_pos fresh, if_pos fresh]
      exact ⟨state', holds'.holdsAbove (Sheet.current_repeatAbove fresh count), bind_of_ok ran⟩
    · rw [answers, writes, if_neg fresh, if_neg fresh]
      exact ⟨state, holds, bind_of_error (holds.repeatRow_of_current_ne_nil fresh count)⟩
  | fillRemaining =>
    have within := holds.rows
    obtain ⟨state', holds', ran⟩ :=
      (holds.fillRows_lands (shape.rows - sheet.completed.length) (by omega)).of_accepts accepts
    rw [if_pos trivial] at ran
    have filled := holds.fillRemaining_eq.trans (bind_of_ok ran)
    refine ⟨state', ?_, bind_of_ok filled⟩
    show HoldsAbove start shape (sheet.fill shape (shape.rows - sheet.completed.length)) state'
    -- without a row to fill up, even a row in progress stays as it is
    cases missing : shape.rows - sheet.completed.length with
    | zero =>
      rw [missing] at ran
      cases ran
      exact holds
    | succ count =>
      rw [missing] at holds'
      exact holds'.holdsAbove (Sheet.current_fill_succ count)

end HoldsAbove

/-! ## What is seen of either buffer -/

/-- What is seen of an assembler and its consumer, but for the row above. -/
structure Progress (κ : Type) where
  /-- The index of the row in progress. -/
  row : Nat
  /-- How many of its bytes are there. -/
  column : Nat
  /-- Whether the delta mode is on. -/
  delta : Bool
  /-- What the consumer became by the rows that were handed over. -/
  consumer : κ
  deriving DecidableEq, Repr

/-- How far rows have come. -/
def RowState.progress (state : RowState κ) : Progress κ :=
  ⟨state.assembler.row, state.assembler.column, state.assembler.delta, state.consumer⟩

/-- How far rows have come, and the row above. -/
def RowState.view (state : RowState κ) : Progress κ × Bytes :=
  (state.progress, state.assembler.previousRow)

/-- In a single buffer, the row above is the row in progress. -/
theorem RowBuffer.previous_eq_current {buffer : RowBuffer} (single : buffer.isPaired = false) :
    buffer.previous = buffer.current := by
  cases buffer with
  | single row => rfl
  | paired current previous => nomatch single

/-- **A single buffer shows the row above** as long as the row in progress repeats it. -/
theorem Holds.previousRow_eq_iff (holds : Holds start shape sheet state)
    (single : shape.paired = false) :
    state.assembler.previousRow = sheet.above shape ↔ sheet.Repeats shape := by
  have shown : state.assembler.previousRow = state.assembler.buffer.current :=
    RowBuffer.previous_eq_current ((congrArg Shape.paired holds.shape_eq).trans single)
  unfold Sheet.Repeats
  rw [List.prefix_iff_getElem?]
  refine ⟨fun same i inside => ?_, fun repeats => Array.ext_getElem? fun i => ?_⟩
  · rw [Array.getElem?_toList, ← same, shown, holds.stored i inside,
      List.getElem?_eq_getElem inside]
  · by_cases inside : i < sheet.current.length
    · rw [shown, holds.stored i inside, List.getElem?_eq_getElem inside, ← repeats i inside,
        Array.getElem?_toList]
    · exact holds.above i (Nat.le_of_not_lt inside)

namespace RowOp

variable {width rows : Nat} {single paired : RowState κ} {ops : List RowOp} {α : Type}

/-- **What is seen** of an assembler that is asked for one thing after another: what it
answers, and what one looks at behind each answer. -/
def trace (look : RowState κ → α) :
    List RowOp → RowState κ → List (Except RasterError (Option Nat) × α)
  | [], _ => []
  | op :: ops, state =>
    match op.perform state with
    | .ok answer state => (.ok answer, look state) :: trace look ops state
    | .error err state => (.error err, look state) :: trace look ops state

theorem trace_cons {look : RowState κ → α} {op : RowOp} {state' : RowState κ}
    {answer : Except RasterError (Option Nat)}
    (ran : op.perform state = (ofExcept answer : RowM κ (Option Nat)) state') :
    trace look (op :: ops) state = (answer, look state') :: trace look ops state' := by
  rw [trace, ran]
  cases answer <;> rfl

/-- Answers do not depend on the pairing. -/
theorem answer_blind (op : RowOp) (sheet : Sheet) :
    op.answer ⟨width, rows, false⟩ sheet = op.answer ⟨width, rows, true⟩ sheet := by
  cases op <;> rfl

/-- **Whatever one looks at**, the delta mode among it: both buffers show the same if no row is
completed in delta mode and what one looks at is the same on each sheet. -/
theorem trace_eq_iff_throughout {look : RowState κ → α} {alike : Sheet → Prop}
    (tells : ∀ single paired, look single = look paired →
      single.assembler.delta = paired.assembler.delta)
    (shows : ∀ sheet single paired, HoldsAbove start ⟨width, rows, false⟩ sheet single →
      HoldsAbove start ⟨width, rows, true⟩ sheet paired → (look single = look paired ↔ alike sheet))
    (accepts : Accepts start rows) (holds : HoldsAbove start ⟨width, rows, false⟩ sheet single)
    (holds' : HoldsAbove start ⟨width, rows, true⟩ sheet paired) :
    trace look ops single = trace look ops paired
      ↔ Throughout (fun op sheet => op.Settles ⟨width, rows, true⟩ sheet
          ∧ alike (op.write ⟨width, rows, true⟩ sheet)) ⟨width, rows, true⟩ ops sheet := by
  induction ops generalizing sheet single paired with
  | nil => exact iff_of_true rfl trivial
  | cons op ops ih =>
    obtain ⟨single', behind, ran⟩ := holds.perform accepts op
    obtain ⟨paired', behind', ran'⟩ := holds'.perform accepts op
    rw [trace_cons ran, trace_cons ran', List.cons.injEq, Prod.mk.injEq, answer_blind]
    by_cases settles : op.Settles ⟨width, rows, true⟩ sheet
    · rw [write_eq settles] at behind
      rw [shows _ _ _ behind behind', ih behind behind']
      exact ⟨fun ⟨⟨_, here⟩, later⟩ => ⟨⟨settles, here⟩, later⟩,
        fun ⟨⟨_, here⟩, later⟩ => ⟨⟨rfl, here⟩, later⟩⟩
    · -- the delta mode is on in the single buffer only
      refine iff_of_false (fun same => settles ?_) fun through => settles through.1.1
      have delta := tells _ _ same.1.2
      rw [behind.delta, behind'.delta] at delta
      exact settles_of_delta_eq delta

/-- If the sheets are the same, then so is how far rows have come. -/
theorem progress_eq (holds : HoldsAbove start ⟨width, rows, false⟩ sheet single)
    (holds' : HoldsAbove start ⟨width, rows, true⟩ sheet paired) :
    single.progress = paired.progress := by
  unfold RowState.progress
  rw [holds.row, holds'.row, holds.column_eq, holds'.column_eq, holds.delta, holds'.delta,
    holds.handed.unique holds'.handed]

/-- The row above is the same inside a row only if that repeats it. -/
theorem view_eq_iff (holds : HoldsAbove start ⟨width, rows, false⟩ sheet single)
    (holds' : HoldsAbove start ⟨width, rows, true⟩ sheet paired) :
    single.view = paired.view ↔ sheet.Repeats ⟨width, rows, true⟩ := by
  have kept : paired.assembler.previousRow = sheet.above ⟨width, rows, true⟩ := holds'.kept rfl
  unfold RowState.view
  rw [progress_eq holds holds', Prod.mk.injEq, kept]
  exact (and_iff_right rfl).trans (holds.previousRow_eq_iff rfl)

/-- **How a single and a paired buffer can be told apart**, with a consumer that accepts all
rows. Answers, rows handed over, row, column and delta mode are the same all along exactly if no
operation completes a row in delta mode. The row above is then the same behind each operation
exactly if the row in progress always repeats it. -/
theorem trace_single_eq_paired_iff (width rows : Nat) (accepts : Accepts start rows)
    (ops : List RowOp) :
    (∀ err, RowAssembler.make width rows false = .error err
      ↔ RowAssembler.make width rows true = .error err)
    ∧ ∀ single paired, RowAssembler.make width rows false = .ok single →
      RowAssembler.make width rows true = .ok paired →
      (trace RowState.progress ops ⟨single, start⟩ = trace RowState.progress ops ⟨paired, start⟩
        ↔ Throughout (fun op sheet => op.Settles ⟨width, rows, true⟩ sheet)
            ⟨width, rows, true⟩ ops {})
      ∧ (trace RowState.view ops ⟨single, start⟩ = trace RowState.view ops ⟨paired, start⟩
        ↔ Throughout (fun op sheet => op.Settles ⟨width, rows, true⟩ sheet
              ∧ (op.write ⟨width, rows, true⟩ sheet).Repeats ⟨width, rows, true⟩)
            ⟨width, rows, true⟩ ops {}) := by
  refine ⟨fun err => ?_, fun single paired made made' => ?_⟩
  · unfold RowAssembler.make
    split
    · exact .rfl
    · split
      · exact iff_of_false nofun nofun
      · exact .rfl
  · have holds := (Holds.of_make made start).holdsAbove rfl
    have holds' := (Holds.of_make made' start).holdsAbove rfl
    have settles : (fun (op : RowOp) sheet => op.Settles ⟨width, rows, true⟩ sheet ∧ True)
        = fun op sheet => op.Settles ⟨width, rows, true⟩ sheet := by
      simp only [and_true]
    refine ⟨?_, trace_eq_iff_throughout (fun _ _ same => congrArg (·.1.delta) same)
      (fun _ _ _ => view_eq_iff) accepts holds holds'⟩
    rw [← settles]
    exact trace_eq_iff_throughout (fun _ _ same => congrArg Progress.delta same)
      (fun _ _ _ holds holds' => iff_of_true (progress_eq holds holds') trivial) accepts holds
      holds'

/-- A row that repeats the one above in delta mode, goes on without it, and is repeated. -/
theorem trace_single_eq_paired_iff_repeating :
    let ops := [appendAll [5, 7], toggleDelta, append 0, toggleDelta, append 9, repeatRow 1,
      fillRemaining]
    ∃ single paired, RowAssembler.make 2 3 false = .ok single
      ∧ RowAssembler.make 2 3 true = .ok paired
      ∧ trace RowState.progress ops ⟨single, RowLog.empty⟩
        = trace RowState.progress ops ⟨paired, RowLog.empty⟩
      ∧ trace RowState.view ops ⟨single, RowLog.empty⟩
        = trace RowState.view ops ⟨paired, RowLog.empty⟩ := by
  intro ops
  have alike := (trace_single_eq_paired_iff 2 3 (RowLog.accepts_empty 3) ops).2 _ _ rfl rfl
  exact ⟨_, _, rfl, rfl, alike.1.mpr (by decide), alike.2.mpr (by decide)⟩

/-- A row that is completed in delta mode. The mode goes on in the single buffer, and so the
next row is another one. -/
theorem trace_single_ne_paired_deltaRow :
    let ops := [toggleDelta, appendAll [5, 7], append 3, append 1]
    ∃ single paired, RowAssembler.make 2 2 false = .ok single
      ∧ RowAssembler.make 2 2 true = .ok paired
      ∧ trace RowState.progress ops ⟨single, RowLog.empty⟩
        ≠ trace RowState.progress ops ⟨paired, RowLog.empty⟩ := by
  intro ops
  refine ⟨_, _, rfl, rfl, fun same => ?_⟩
  have seen := congrArg (List.map Prod.snd) same
  revert seen
  decide

end RowOp

end WpgRaster
