import WpgRaster.Proofs.Row.Packing
import WpgRaster.Proofs.RunLength.Interpreter

/-!
# Expanding the first generation

Codes of the first generation say nothing about rows, but for the row
repeat. They can therefore be expanded to one list of bytes, whatever the
number of rows; `expand` does that. What the interpreter writes are these
bytes, cut to the rows there are (`interpret_first`). A row repeat inside
a row is reported if the row is one of those.
-/

namespace WpgRaster.RunLength

/-- What codes expand to. -/
structure Expansion where
  /-- All bytes, in order. -/
  bytes : List UInt8
  /-- The row and the number of bytes in it at a row repeat inside a row,
  which ends the expansion. -/
  violation : Option (Nat × Nat)
  deriving DecidableEq, Repr

/-- **The expansion of a raster** of the first generation, behind the bytes
that are there already. -/
def expand (width : Nat) (bytes : List UInt8) : List UInt8 → Expansion
  | [] => ⟨bytes, none⟩
  | control :: rest =>
    let n := control.toNat % 0x80
    if control.toNat < 0x80 ∧ n ≠ 0 then
      expand width (bytes ++ rest.take n) (rest.drop n)
    else
      match rest with
      | [] => ⟨bytes, none⟩
      | operand :: rest =>
        if control.toNat < 0x80 then
          if bytes.length % width = 0 then
            let copies := List.replicate operand.toNat (lastRow width bytes)
            expand width (bytes ++ copies.flatten) rest
          else ⟨bytes, some (bytes.length / width, bytes.length % width)⟩
        else if n = 0 then
          expand width (bytes ++ List.replicate operand.toNat 0xFF) rest
        else expand width (bytes ++ List.replicate n operand) rest
termination_by raster => raster.length
decreasing_by
  all_goals
    simp only [List.length_cons, List.length_drop]
    omega

/-- A literal run, whatever comes behind its control byte. -/
theorem expand_literal {width : Nat} (bytes rest : List UInt8) {control : UInt8}
    (literal : control.toNat < 0x80 ∧ control.toNat % 0x80 ≠ 0) :
    expand width bytes (control :: rest)
      = expand width (bytes ++ rest.take (control.toNat % 0x80))
          (rest.drop (control.toNat % 0x80)) := by
  cases rest <;> rw [expand, if_pos literal]

/-- An expansion that goes on behind bytes that are there, and what ends it
comes behind all of them. -/
def Expansion.Extends (width : Nat) (bytes : List UInt8) (expansion : Expansion) : Prop :=
  ∃ more, expansion.bytes = bytes ++ more
    ∧ ∀ row column, expansion.violation = some (row, column) →
      row = (bytes ++ more).length / width

theorem Expansion.Extends.of_append {width : Nat} {bytes more : List UInt8}
    {expansion : Expansion} (extends_ : expansion.Extends width (bytes ++ more)) :
    expansion.Extends width bytes := by
  obtain ⟨rest, all, behind⟩ := extends_
  rw [List.append_assoc] at all behind
  exact ⟨more ++ rest, all, behind⟩

/-- Expanding only adds to the bytes that are there. -/
theorem expand_extends (width : Nat) (bytes raster : List UInt8) :
    (expand width bytes raster).Extends width bytes := by
  fun_induction expand width bytes raster with
  | case1 bytes => exact ⟨[], (List.append_nil bytes).symm, fun _ _ none => nomatch none⟩
  | case2 bytes control rest n literal ih => exact ih.of_append
  | case3 bytes control n => exact ⟨[], (List.append_nil bytes).symm, fun _ _ none => nomatch none⟩
  | case4 bytes control n operand rest low fresh copies code ih => exact ih.of_append
  | case5 bytes control n operand rest low inside code =>
    refine ⟨[], (List.append_nil bytes).symm, fun row column here => ?_⟩
    cases here
    rw [List.append_nil]
  | case6 bytes control n operand rest low zero code ih => exact ih.of_append
  | case7 bytes control n operand rest low zero code ih => exact ih.of_append

/-! ## Interpreting -/

/-- **A frame that the expansion aborts**: a row repeat stands inside one of
its `count` rows. -/
def Expansion.Aborts (count : Nat) (expansion : Expansion) (err : RasterError) : Prop :=
  ∃ row column, expansion.violation = some (row, column) ∧ row < count
    ∧ err = .midRowRepeat row column

variable {shape : Shape}

/-- **An expansion that describes what was interpreted**: its bytes are
written, and the interpretation ends with an error just if the expansion
ends inside one of the rows. -/
structure Expansion.Describes (shape : Shape) (expansion : Expansion)
    (final : Sheet × Ending) : Prop where
  /-- The sheet has the bytes of the expansion. -/
  sheet : final.1 = .ofBytes shape expansion.bytes
  /-- Errors are violations. -/
  aborted : ∀ err, final.2 = .aborted err ↔ expansion.Aborts shape.rows err

/-- An expansion without violation describes an end without error. -/
theorem Expansion.Describes.of_no_violation {bytes : List UInt8} {ending : Ending}
    (clean : ∀ err, ending ≠ .aborted err) :
    Expansion.Describes shape ⟨bytes, none⟩ (.ofBytes shape bytes, ending) where
  sheet := rfl
  aborted err :=
    ⟨fun aborted => absurd aborted (clean err), fun ⟨_, _, violated, _⟩ => nomatch violated⟩

/-- Once all rows are there, nothing in the rest of the expansion matters. -/
theorem describes_of_isComplete (wide : 0 < shape.width) {bytes : List UInt8}
    (full : shape.rows * shape.width ≤ bytes.length) (raster : List UInt8) :
    (expand shape.width bytes raster).Describes shape (.ofBytes shape bytes, .full) := by
  obtain ⟨more, all, behind⟩ := expand_extends shape.width bytes raster
  refine ⟨?_, fun err => ⟨nofun, ?_⟩⟩
  · have complete := (Sheet.isComplete_ofBytes_iff wide bytes).mpr full
    rw [all, ← Sheet.writeAll_ofBytes, Sheet.writeAll_of_isComplete complete]
  · rintro ⟨row, column, violated, inside, -⟩
    have beyond : shape.rows ≤ (bytes ++ more).length / shape.width := by
      rw [Nat.le_div_iff_mul_le wide, List.length_append]
      exact Nat.le_add_right_of_le full
    rw [behind row column violated] at inside
    exact absurd inside (Nat.not_lt_of_le beyond)

/-- What becomes of a code decides, unless all rows are there already. -/
theorem describes_of_step (wide : 0 < shape.width) {bytes rest : List UInt8} {control : UInt8}
    {register : SampleRegister}
    (stepped : bytes.length < shape.rows * shape.width →
      (expand shape.width bytes (control :: rest)).Describes shape
        (match Interpreter.stepFirst shape ⟨register, .ofBytes shape bytes⟩ control rest with
          | .next state used => state.interpret shape .first (rest.drop used)
          | .last sheet ending => (sheet, ending))) :
    (expand shape.width bytes (control :: rest)).Describes shape
      (Interpreter.interpret shape .first ⟨register, .ofBytes shape bytes⟩
        (control :: rest)) := by
  have complete := Sheet.isComplete_ofBytes_iff wide bytes
  by_cases full : shape.rows * shape.width ≤ bytes.length
  · rw [Interpreter.interpret_of_isComplete (complete.mpr full)]
    exact describes_of_isComplete wide full _
  · rw [Interpreter.interpret_cons (fun yes => full (complete.mp yes))]
    exact stepped (Nat.lt_of_not_le full)

/-- **The expansion of a raster describes its interpretation.** -/
theorem interpret_first (wide : 0 < shape.width) (bytes raster : List UInt8)
    (register : SampleRegister) :
    (expand shape.width bytes raster).Describes shape
      (Interpreter.interpret shape .first ⟨register, .ofBytes shape bytes⟩ raster) := by
  induction bytes, raster using expand.induct shape.width with
  | case1 bytes =>
    -- the raster is used up
    rw [expand]
    by_cases full : (Sheet.ofBytes shape bytes).IsComplete shape
    · rw [Interpreter.interpret_of_isComplete full]
      exact .of_no_violation fun err same => by cases same
    · rw [Interpreter.interpret_nil full]
      exact .of_no_violation fun err same => by cases same
  | case2 bytes control rest n literal ih =>
    -- a literal run; if it is cut, then nothing comes behind it on either side
    refine describes_of_step wide fun _ => ?_
    rw [expand_literal _ _ literal, Interpreter.stepFirst_literal literal, Interpreter.copy]
    by_cases enough : n ≤ rest.length
    · rw [if_pos enough, Interpreter.emit, Sheet.writeAll_ofBytes]
      exact ih
    · rw [if_neg enough, List.take_of_length_le (by omega), List.drop_eq_nil_of_le (by omega),
        expand, Sheet.writeAll_ofBytes]
      exact .of_no_violation (Ending.ofCut_ne_aborted _ _)
  | case3 bytes control n code =>
    -- an operand is missing
    refine describes_of_step wide fun _ => ?_
    rw [expand, if_neg code, Interpreter.stepFirst, if_neg code]
    exact .of_no_violation fun err same => by cases same
  | case4 bytes control n code operand rest low fresh copies ih =>
    -- a row repeat between rows
    refine describes_of_step wide fun short => ?_
    have plain := Sheet.Plain.ofBytes wide bytes
    have whole := Sheet.bytes_ofBytes wide bytes
    rw [List.take_of_length_le (Nat.le_of_lt short)] at whole
    have between : (Sheet.ofBytes shape bytes).current = [] := by
      rw [← List.length_eq_zero_iff, plain.length_current, whole, fresh]
    rw [expand, if_neg code, Interpreter.stepFirst, if_neg code]
    dsimp only
    rw [if_pos low, if_pos fresh, if_pos low, Interpreter.repeatRow, if_pos between,
      plain.repeatAbove_eq between, whole, Sheet.writeAll_ofBytes]
    exact ih
  | case5 bytes control n code operand rest low inside =>
    -- a row repeat inside a row
    refine describes_of_step wide fun short => ?_
    have plain := Sheet.Plain.ofBytes wide bytes
    have whole := Sheet.bytes_ofBytes wide bytes
    rw [List.take_of_length_le (Nat.le_of_lt short)] at whole
    have between : (Sheet.ofBytes shape bytes).current ≠ [] := by
      rwa [Ne, ← List.length_eq_zero_iff, plain.length_current, whole]
    rw [expand, if_neg code, Interpreter.stepFirst, if_neg code]
    dsimp only
    rw [if_pos low, if_neg inside, if_pos low, Interpreter.repeatRow, if_neg between,
      plain.length_completed, plain.length_current, whole]
    refine ⟨rfl, fun err => ⟨?_, ?_⟩⟩
    · rintro ⟨⟩
      exact ⟨_, _, rfl, (Nat.div_lt_iff_lt_mul wide).mpr short, rfl⟩
    · rintro ⟨_, _, ⟨⟩, -, rfl⟩
      rfl
  | case6 bytes control n code operand rest low zero ih =>
    -- a run of ones
    refine describes_of_step wide fun _ => ?_
    rw [expand, if_neg code, Interpreter.stepFirst, if_neg code]
    dsimp only
    rw [if_neg low, if_pos zero, if_neg low, if_pos zero, Interpreter.emit,
      Sheet.writeAll_ofBytes]
    exact ih
  | case7 bytes control n code operand rest low zero ih =>
    -- a run of the operand
    refine describes_of_step wide fun _ => ?_
    rw [expand, if_neg code, Interpreter.stepFirst, if_neg code]
    dsimp only
    rw [if_neg low, if_neg zero, if_neg low, if_neg zero, Interpreter.emit,
      Sheet.writeAll_ofBytes]
    exact ih

end WpgRaster.RunLength
