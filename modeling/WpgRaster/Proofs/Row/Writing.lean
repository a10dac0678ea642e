import WpgRaster.Proofs.Row.Sheet
import WpgRaster.Row.Operation

/-!
# Writing with one buffer or two

A sheet does not have buffers, but its shape says whether the row above is kept beside the row
in progress. That only matters when a row is closed: then the delta mode ends, or goes on. So a
way of writing is *impartial* if it does the same on either sheet unless it closes a row in
delta mode (`Sheet.Impartial`). Writing bytes, repeating rows and filling up are built from
joining bytes and closing rows, step by step and by choices that do not look at the pairing, and
are therefore impartial.

`RowOp.write` is what an operation of an assembler writes. It *settles* if it completes no row
in delta mode (`RowOp.Settles`), and this is so exactly if it leaves the delta mode alike on
either sheet; then it leaves the same sheet (`RowOp.write_eq`).
-/

namespace WpgRaster

namespace Sheet

/-- **A sheet that goes on**: rows are never lost, and the delta mode is never turned on. -/
structure Onward (shape : Shape) (sheet sheet' : Sheet) : Prop where
  /-- There are no fewer rows. -/
  rows : sheet.completed.length ≤ sheet'.completed.length
  /-- The delta mode stays on, unless it ends with a row. -/
  delta : sheet'.delta = true ↔ sheet.delta = true
    ∧ (shape.paired = true → sheet'.completed.length = sheet.completed.length)

/-- **A way of writing that is impartial**: it does the same on the sheet of a single buffer and
of a paired one, unless it closes a row in delta mode. -/
structure Impartial (writer : Shape → Sheet → Sheet) : Prop where
  /-- The sheet goes on. -/
  onward : ∀ shape sheet, Onward shape sheet (writer shape sheet)
  /-- It is the same sheet. -/
  agrees : ∀ width rows sheet,
    (sheet.delta = true →
      (writer ⟨width, rows, true⟩ sheet).completed.length = sheet.completed.length) →
    writer ⟨width, rows, false⟩ sheet = writer ⟨width, rows, true⟩ sheet

theorem Onward.refl (shape : Shape) (sheet : Sheet) : Onward shape sheet sheet :=
  ⟨Nat.le_refl _, by simp⟩

theorem Onward.trans {shape : Shape} {sheet sheet' sheet'' : Sheet}
    (first : Onward shape sheet sheet') (second : Onward shape sheet' sheet'') :
    Onward shape sheet sheet'' := by
  have rows := first.rows
  have rows' := second.rows
  refine ⟨Nat.le_trans rows rows', ?_⟩
  rw [second.delta, first.delta, and_assoc]
  refine and_congr_right fun _ => ⟨fun ⟨same, same'⟩ paired => ?_, fun same => ⟨fun paired => ?_,
    fun paired => ?_⟩⟩
  · rw [same' paired, same paired]
  · have := same paired
    omega
  · have := same paired
    omega

namespace Impartial

variable {writer next : Shape → Sheet → Sheet}

theorem id : Impartial fun _ sheet => sheet := ⟨Onward.refl, fun _ _ _ _ => rfl⟩

/-- What is impartial step by step is so in sequence. -/
theorem comp (first : Impartial writer) (second : Impartial next) :
    Impartial fun shape sheet => next shape (writer shape sheet) where
  onward shape sheet := (first.onward shape sheet).trans (second.onward shape _)
  agrees width rows sheet same := by
    have here := first.onward ⟨width, rows, true⟩ sheet
    have there := second.onward ⟨width, rows, true⟩ (writer ⟨width, rows, true⟩ sheet)
    have rows_here := here.rows
    have rows_there := there.rows
    have first_same : writer ⟨width, rows, false⟩ sheet = writer ⟨width, rows, true⟩ sheet :=
      first.agrees width rows sheet fun on => by
        have := same on
        omega
    rw [first_same]
    refine second.agrees width rows _ fun on => ?_
    have := same (here.delta.mp on).1
    omega

/-- A choice that does not look at the pairing. -/
theorem ite {cond : Shape → Sheet → Prop} [∀ shape sheet, Decidable (cond shape sheet)]
    (blind : ∀ width rows sheet, cond ⟨width, rows, false⟩ sheet ↔ cond ⟨width, rows, true⟩ sheet)
    (yes : Impartial writer) (no : Impartial next) :
    Impartial fun shape sheet =>
      if cond shape sheet then writer shape sheet else next shape sheet where
  onward shape sheet := by
    by_cases holds : cond shape sheet
    · rw [if_pos holds]
      exact yes.onward shape sheet
    · rw [if_neg holds]
      exact no.onward shape sheet
  agrees width rows sheet same := by
    by_cases holds : cond ⟨width, rows, true⟩ sheet
    · rw [if_pos holds] at same
      rw [if_pos holds, if_pos ((blind ..).mpr holds)]
      exact yes.agrees width rows sheet same
    · rw [if_neg holds] at same
      rw [if_neg holds, if_neg fun other => holds ((blind ..).mp other)]
      exact no.agrees width rows sheet same

/-- Bytes that join the row in progress. -/
theorem join (current : Shape → Sheet → List UInt8)
    (blind : ∀ width rows sheet, current ⟨width, rows, false⟩ sheet
      = current ⟨width, rows, true⟩ sheet) :
    Impartial fun shape sheet => { sheet with current := current shape sheet } where
  onward shape sheet := ⟨Nat.le_refl _, by simp⟩
  agrees width rows sheet _ := by
    rw [blind]

/-- **Closing a row** is what a single and a paired buffer do differently. -/
theorem close (row : Shape → Sheet → Bytes)
    (blind : ∀ width rows sheet, row ⟨width, rows, false⟩ sheet = row ⟨width, rows, true⟩ sheet) :
    Impartial fun shape sheet => sheet.close shape (row shape sheet) where
  onward shape sheet := by
    refine ⟨?_, ?_⟩
    · show sheet.completed.length ≤ (sheet.completed ++ [_]).length
      rw [List.length_append]
      exact Nat.le_add_right _ _
    · show (sheet.delta && !shape.paired) = true ↔ sheet.delta = true
        ∧ (shape.paired = true → (sheet.completed ++ [_]).length = sheet.completed.length)
      rw [List.length_append, List.length_singleton]
      cases shape.paired <;> simp
  agrees width rows sheet same := by
    have off : sheet.delta = false := by
      rw [← Bool.not_eq_true]
      intro on
      have more : (sheet.completed ++ [row ⟨width, rows, true⟩ sheet]).length
        = sheet.completed.length := same on
      rw [List.length_append, List.length_singleton] at more
      omega
    show sheet.close ⟨width, rows, false⟩ _ = sheet.close ⟨width, rows, true⟩ _
    unfold Sheet.close
    rw [blind, off]
    rfl

theorem write (byte : UInt8) : Impartial fun shape sheet => sheet.write shape byte :=
  .ite (fun _ _ _ => .rfl) .id
    (.ite (fun _ _ _ => .rfl)
      (.close (fun shape sheet => (sheet.current ++ [sheet.combine shape byte]).toArray)
        fun _ _ _ => rfl)
      (.join (fun shape sheet => sheet.current ++ [sheet.combine shape byte]) fun _ _ _ => rfl))

theorem writeAll (bytes : List UInt8) :
    Impartial fun shape sheet => sheet.writeAll shape bytes := by
  induction bytes with
  | nil => exact .id
  | cons byte rest ih => exact (write byte).comp ih

theorem repeatAbove (count : Nat) :
    Impartial fun shape sheet => sheet.repeatAbove shape count := by
  induction count with
  | zero => exact .id
  | succ count ih =>
    exact .ite (fun _ _ _ => .rfl) .id
      ((close (fun shape sheet => sheet.above shape) fun _ _ _ => rfl).comp ih)

theorem fill (count : Nat) : Impartial fun shape sheet => sheet.fill shape count := by
  induction count with
  | zero => exact .id
  | succ count ih =>
    exact (close (fun shape sheet => sheet.padded shape) fun _ _ _ => rfl).comp ih

end Impartial

/-- **A row in progress that repeats the row above**, as far as it goes. -/
def Repeats (shape : Shape) (sheet : Sheet) : Prop :=
  sheet.current <+: (sheet.above shape).toList

instance (shape : Shape) (sheet : Sheet) : Decidable (sheet.Repeats shape) :=
  inferInstanceAs (Decidable (_ <+: _))

end Sheet

namespace RowOp

/-- What an operation writes on a sheet. -/
def write (shape : Shape) (sheet : Sheet) : RowOp → Sheet
  | append byte => sheet.write shape byte
  | appendAll bytes => sheet.writeAll shape bytes
  | toggleDelta => { sheet with delta := !sheet.delta }
  | repeatRow count => if sheet.current = [] then sheet.repeatAbove shape count else sheet
  | fillRemaining => sheet.fill shape (shape.rows - sheet.completed.length)

/-- What it answers. -/
def answer (shape : Shape) (sheet : Sheet) : RowOp → Except RasterError (Option Nat)
  | append _ => if sheet.IsComplete shape then .error .rowsExhausted else .ok none
  | appendAll bytes =>
    if bytes.length ≤ sheet.room shape then .ok none else .error .rowsExhausted
  | toggleDelta => .ok none
  | repeatRow _ =>
    if sheet.current = [] then .ok none
    else .error (.midRowRepeat sheet.completed.length sheet.current.length)
  | fillRemaining => .ok (some (shape.rows - sheet.completed.length))

/-- **An operation that completes no row in delta mode.** -/
def Settles (op : RowOp) (shape : Shape) (sheet : Sheet) : Prop :=
  sheet.delta = true → (op.write shape sheet).completed.length = sheet.completed.length

instance (op : RowOp) (shape : Shape) (sheet : Sheet) : Decidable (op.Settles shape sheet) :=
  inferInstanceAs (Decidable (_ → _))

/-- Operations of which something holds, each on the sheet as it is by then. -/
def Throughout (holds : RowOp → Sheet → Prop) (shape : Shape) : List RowOp → Sheet → Prop
  | [], _ => True
  | op :: ops, sheet => holds op sheet ∧ Throughout holds shape ops (op.write shape sheet)

instance decidableThroughout {holds : RowOp → Sheet → Prop}
    [∀ op sheet, Decidable (holds op sheet)] (shape : Shape) :
    (ops : List RowOp) → (sheet : Sheet) → Decidable (Throughout holds shape ops sheet)
  | [], _ => isTrue trivial
  | op :: ops, sheet =>
    have : Decidable (Throughout holds shape ops (op.write shape sheet)) :=
      decidableThroughout shape ops _
    inferInstanceAs (Decidable (holds op sheet ∧ _))

variable {width rows : Nat} {sheet : Sheet}

/-- All operations but turning the delta mode on or off are impartial. -/
theorem impartial_write {op : RowOp} (writes : op ≠ toggleDelta) :
    Sheet.Impartial fun shape sheet => op.write shape sheet := by
  cases op with
  | append byte => exact .write byte
  | appendAll bytes => exact .writeAll bytes
  | toggleDelta => exact absurd rfl writes
  | repeatRow count => exact .ite (fun _ _ _ => .rfl) (.repeatAbove count) .id
  | fillRemaining =>
    exact
      { onward := fun shape sheet =>
          (Sheet.Impartial.fill (shape.rows - sheet.completed.length)).onward shape sheet
        agrees := fun width rows sheet same =>
          (Sheet.Impartial.fill (rows - sheet.completed.length)).agrees width rows sheet same }

/-- **Without a row completed in delta mode, the sheets are the same.** -/
theorem write_eq {op : RowOp} (settles : op.Settles ⟨width, rows, true⟩ sheet) :
    op.write ⟨width, rows, false⟩ sheet = op.write ⟨width, rows, true⟩ sheet := by
  by_cases toggles : op = toggleDelta
  · rw [toggles]
    rfl
  · exact (impartial_write toggles).agrees width rows sheet settles

/-- With one, they differ in the delta mode. -/
theorem settles_of_delta_eq {op : RowOp}
    (same : (op.write ⟨width, rows, false⟩ sheet).delta
      = (op.write ⟨width, rows, true⟩ sheet).delta) :
    op.Settles ⟨width, rows, true⟩ sheet := by
  intro on
  by_cases toggles : op = toggleDelta
  · rw [toggles]
    rfl
  · have writes := impartial_write toggles
    have single := (writes.onward ⟨width, rows, false⟩ sheet).delta.mpr ⟨on, nofun⟩
    rw [same] at single
    exact ((writes.onward ⟨width, rows, true⟩ sheet).delta.mp single).2 rfl

end RowOp

end WpgRaster
