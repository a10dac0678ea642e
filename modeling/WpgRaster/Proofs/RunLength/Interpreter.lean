import WpgRaster.Proofs.Row.Sheet
import WpgRaster.RunLength.Token
import WpgRaster.Frame.Decode

/-!
# The meaning of run-length codes

What a compressed raster says, without a source that is read from, an
assembler or a consumer: an `Interpreter` has the sample register and the
sheet written so far, and the codes of the raster are a list of bytes.
`step` carries out one code with the bytes behind it, `interpret` all of
them.

An interpretation ends when the rows are there, when the bytes are used
up or at a code that makes no sense (`Ending`). A literal run is special.
It may be longer than what is left of the raster and longer than what is
left of the sheet, and if these two are equal, then the last byte of the
raster completes the sheet although the run is not over
(`Ending.cutLiteral`).
-/

namespace WpgRaster.RunLength

/-- How an interpretation ends. -/
inductive Ending
  /-- All rows are there. -/
  | full
  /-- All rows are there, and the bytes are used up inside the literal run
  that completed them. -/
  | cutLiteral
  /-- The bytes are used up and rows are missing. -/
  | short
  /-- A code made no sense. -/
  | aborted (err : RasterError)
  deriving DecidableEq, Repr

/-- How a literal run ends that is longer than what is left of the raster:
with so many bytes left, and with room for so many. -/
def Ending.ofCut (left room : Nat) : Ending :=
  if left < room then .short else if left = room then .cutLiteral else .full

/-- That bytes are missing is no error. -/
theorem Ending.ofCut_ne_aborted (left room : Nat) (err : RasterError) :
    ofCut left room ≠ .aborted err := by
  unfold ofCut
  split
  · nofun
  · split <;> nofun

/-- What is reported of a frame that ends in a way, if so many rows were
complete before the others were filled up. -/
def Ending.result (rowsDecoded : Nat) : Ending → Except RasterError Outcome
  | full => .ok .complete
  | cutLiteral | short => .ok (.truncated rowsDecoded)
  | aborted err => .error err

/-- The state between two codes. -/
structure Interpreter where
  /-- The sample that codes of the second generation refer to. -/
  register : SampleRegister := {}
  /-- What is written. -/
  sheet : Sheet := {}
  deriving DecidableEq, Repr

/-- What becomes of a code. -/
inductive Progress
  /-- It is carried out. The next code comes behind so many further bytes. -/
  | next (state : Interpreter) (used : Nat)
  /-- The interpretation ends with it. -/
  | last (sheet : Sheet) (ending : Ending)
  deriving DecidableEq, Repr

namespace Interpreter

variable (shape : Shape)

/-- Writes bytes of a run. -/
def emit (state : Interpreter) (bytes : List UInt8) (used : Nat) : Progress :=
  .next { state with sheet := state.sheet.writeAll shape bytes } used

/-- Writes the next `count` bytes of the raster as they are. -/
def copy (state : Interpreter) (count : Nat) (rest : List UInt8) : Progress :=
  if count ≤ rest.length then state.emit shape (rest.take count) count
  else
    .last (state.sheet.writeAll shape rest) (.ofCut rest.length (state.sheet.room shape))

/-- Repeats the last complete row, which makes no sense inside a row. -/
def repeatRow (state : Interpreter) (count used : Nat) : Progress :=
  if state.sheet.current = [] then
    .next { state with sheet := state.sheet.repeatAbove shape count } used
  else
    .last state.sheet
      (.aborted (.midRowRepeat state.sheet.completed.length state.sheet.current.length))

/-- Carries out a code of the first generation. -/
def stepFirst (state : Interpreter) (control : UInt8) (rest : List UInt8) : Progress :=
  let n := control.toNat % 0x80
  if control.toNat < 0x80 ∧ n ≠ 0 then state.copy shape n rest
  else
    match rest with
    | [] => .last state.sheet .short
    | operand :: _ =>
      if control.toNat < 0x80 then state.repeatRow shape operand.toNat 1
      else if n = 0 then state.emit shape (List.replicate operand.toNat 0xFF) 1
      else state.emit shape (List.replicate n operand) 1

/-- Carries out a code of the second generation. -/
def stepSecond (state : Interpreter) (control : UInt8) (rest : List UInt8) : Progress :=
  let size := state.register.size
  let code := control.toNat
  let n := code % 0x80
  if code < 0x7D then state.copy shape (size * (n + 1)) rest
  else if code = 0x7E then
    .next { state with sheet := { state.sheet with delta := !state.sheet.delta } } 0
  else if 0x80 ≤ code ∧ code < 0xFD then
    if size ≤ rest.length then
      let register := { state.register with
        bytes := rest.take size ++ state.register.bytes.drop size }
      emit shape { state with register } (List.replicate (n + 1) (rest.take size)).flatten size
    else .last state.sheet .short
  else
    match rest with
    | [] => .last state.sheet .short
    | operand :: _ =>
      let m := operand.toNat
      if code = 0x7D then
        if 1 ≤ m ∧ m ≤ 8 then
          .next { state with register := { state.register with size := m } } 1
        else .last state.sheet (.aborted (.invalidSampleSize m))
      else if code = 0x7F then state.emit shape (List.replicate (size * (m + 1)) 0x00) 1
      else if code = 0xFF then state.emit shape (List.replicate (size * (m + 1)) 0xFF) 1
      else if code = 0xFD then
        state.emit shape (List.replicate (m + 1) (state.register.bytes.take size)).flatten 1
      else state.repeatRow shape (m + 1) 1

/-- Carries out a code of either generation. -/
def step (generation : Generation) (state : Interpreter) (control : UInt8)
    (rest : List UInt8) : Progress :=
  match generation with
  | .first => state.stepFirst shape control rest
  | .second => state.stepSecond shape control rest

/-- **The meaning of a raster**: what is written when its codes are
carried out one after another until all rows are there, and how that
ends. -/
def interpret (generation : Generation) (state : Interpreter) :
    List UInt8 → Sheet × Ending
  | [] => (state.sheet, if state.sheet.IsComplete shape then .full else .short)
  | control :: rest =>
    if state.sheet.IsComplete shape then (state.sheet, .full)
    else
      match state.step shape generation control rest with
      | .next state used => interpret generation state (rest.drop used)
      | .last sheet ending => (sheet, ending)
termination_by raster => raster.length
decreasing_by
  rw [List.length_cons, List.length_drop]
  omega

variable {shape} {state : Interpreter}

/-- Once all rows are there, the rest of the raster does not matter. -/
theorem interpret_of_isComplete (full : state.sheet.IsComplete shape)
    (generation : Generation) (raster : List UInt8) :
    state.interpret shape generation raster = (state.sheet, .full) := by
  cases raster with
  | nil => rw [interpret, if_pos full]
  | cons control rest => rw [interpret, if_pos full]

theorem interpret_nil (short : ¬ state.sheet.IsComplete shape) (generation : Generation) :
    state.interpret shape generation [] = (state.sheet, .short) := by
  rw [interpret, if_neg short]

theorem interpret_cons (short : ¬ state.sheet.IsComplete shape) (generation : Generation)
    (control : UInt8) (rest : List UInt8) :
    state.interpret shape generation (control :: rest)
      = match state.step shape generation control rest with
        | .next state used => state.interpret shape generation (rest.drop used)
        | .last sheet ending => (sheet, ending) := by
  rw [interpret, if_neg short]

/-- A literal run of the first generation. -/
theorem stepFirst_literal {control : UInt8} {rest : List UInt8}
    (literal : control.toNat < 0x80 ∧ control.toNat % 0x80 ≠ 0) :
    state.stepFirst shape control rest = state.copy shape (control.toNat % 0x80) rest := by
  unfold stepFirst
  exact if_pos literal

/-! ## How it ends -/

/-- **A code that makes no sense** behind a sheet: samples have 1 to 8
bytes, and rows are repeated between rows. -/
def Violation (sheet : Sheet) (err : RasterError) : Prop :=
  (∃ size, ¬ (1 ≤ size ∧ size ≤ 8) ∧ err = .invalidSampleSize size)
  ∨ sheet.current ≠ [] ∧ err = .midRowRepeat sheet.completed.length sheet.current.length

/-- **An ending that fits the sheet**: the sheet tells whether all rows are
there, and an error has its reason. -/
structure Fits (shape : Shape) (sheet : Sheet) (ending : Ending) : Prop
    extends Sheet.Within shape sheet where
  /-- All rows are there, or the ending says that they are not. -/
  isComplete_iff : sheet.IsComplete shape ↔ ending = .full ∨ ending = .cutLiteral
  /-- An error comes from a code that makes no sense. -/
  violation : ∀ err, ending = .aborted err → Violation sheet err

/-- A code that stays within the shape, with an ending that fits. -/
def Stays (shape : Shape) : Progress → Prop
  | .next state _ => state.sheet.Within shape
  | .last sheet ending => Fits shape sheet ending

theorem fits_full (within : state.sheet.Within shape) (full : state.sheet.IsComplete shape) :
    Fits shape state.sheet .full where
  toWithin := within
  isComplete_iff := ⟨fun _ => .inl rfl, fun _ => full⟩
  violation := nofun

theorem fits_short (within : state.sheet.Within shape)
    (short : ¬ state.sheet.IsComplete shape) : Fits shape state.sheet .short where
  toWithin := within
  isComplete_iff := ⟨fun full => absurd full short, nofun⟩
  violation := nofun

theorem fits_aborted (within : state.sheet.Within shape)
    (short : ¬ state.sheet.IsComplete shape) {err : RasterError}
    (violation : Violation state.sheet err) : Fits shape state.sheet (.aborted err) where
  toWithin := within
  isComplete_iff := ⟨fun full => absurd full short, nofun⟩
  violation := fun
    | _, rfl => violation

/-- **A literal run that is cut** completes the sheet only if there are no
fewer bytes than there is room for. -/
theorem stays_copy (within : state.sheet.Within shape) (count : Nat) (rest : List UInt8) :
    Stays shape (state.copy shape count rest) := by
  unfold copy
  by_cases enough : count ≤ rest.length
  · rw [if_pos enough]
    exact within.writeAll _
  · rw [if_neg enough]
    have complete := within.isComplete_writeAll_iff rest
    unfold Ending.ofCut
    by_cases few : rest.length < state.sheet.room shape
    · rw [if_pos few]
      exact ⟨within.writeAll rest, complete.trans ⟨fun many => by omega, nofun⟩, nofun⟩
    · have full := complete.mpr (Nat.le_of_not_lt few)
      rw [if_neg few]
      split
      · exact ⟨within.writeAll rest, ⟨fun _ => .inr rfl, fun _ => full⟩, nofun⟩
      · exact ⟨within.writeAll rest, ⟨fun _ => .inl rfl, fun _ => full⟩, nofun⟩

theorem stays_repeatRow (within : state.sheet.Within shape)
    (short : ¬ state.sheet.IsComplete shape) (count used : Nat) :
    Stays shape (state.repeatRow shape count used) := by
  unfold repeatRow
  split
  · exact within.repeatAbove count
  · next inside => exact fits_aborted within short (.inr ⟨inside, rfl⟩)

/-- No code leaves the shape, and the last one tells whether all rows are
there. -/
theorem stays_step (within : state.sheet.Within shape)
    (short : ¬ state.sheet.IsComplete shape) (generation : Generation) (control : UInt8)
    (rest : List UInt8) : Stays shape (state.step shape generation control rest) := by
  cases generation with
  | first =>
    show Stays shape (state.stepFirst shape control rest)
    unfold stepFirst
    dsimp only
    repeat' split
    · exact stays_copy within _ rest
    · exact fits_short within short
    · exact stays_repeatRow within short _ _
    · exact within.writeAll _
    · exact within.writeAll _
  | second =>
    show Stays shape (state.stepSecond shape control rest)
    unfold stepSecond
    dsimp only
    repeat' split
    · exact stays_copy within _ rest
    · exact ⟨within.rows, within.column⟩
    · exact within.writeAll _
    · exact fits_short within short
    · exact fits_short within short
    · exact within
    · next size wrong => exact fits_aborted within short (.inl ⟨_, wrong, rfl⟩)
    · exact within.writeAll _
    · exact within.writeAll _
    · exact within.writeAll _
    · exact stays_repeatRow within short _ _

/-- **An interpretation ends as its sheet tells**: with all rows, or with a
reason why not. -/
theorem interpret_fits (within : state.sheet.Within shape) (generation : Generation)
    (raster : List UInt8) :
    Fits shape (state.interpret shape generation raster).1
      (state.interpret shape generation raster).2 := by
  induction state, raster using interpret.induct shape generation with
  | case1 state =>
    by_cases full : state.sheet.IsComplete shape
    · rw [interpret_of_isComplete full]
      exact fits_full within full
    · rw [interpret_nil full]
      exact fits_short within full
  | case2 state control rest full =>
    rw [interpret_of_isComplete full]
    exact fits_full within full
  | case3 state control rest short next used progress ih =>
    have stays := stays_step within short generation control rest
    rw [progress] at stays
    rw [interpret_cons short, progress]
    exact ih stays
  | case4 state control rest short sheet ending progress =>
    have stays := stays_step within short generation control rest
    rw [progress] at stays
    rw [interpret_cons short, progress]
    exact stays

/-! ## Literal runs that are cut -/

/-- The bytes of the literal run that a code announces, if it announces
one. -/
def literal? (generation : Generation) (state : Interpreter) (control : UInt8) : Option Nat :=
  match generation with
  | .first =>
    if control.toNat < 0x80 ∧ control.toNat % 0x80 ≠ 0 then some (control.toNat % 0x80) else none
  | .second =>
    if control.toNat < 0x7D then some (state.register.size * (control.toNat % 0x80 + 1)) else none

/-- **The interpretation comes by a state**: codes of the raster lead to it
while rows are missing, and the others are still to come. -/
inductive Reaches (shape : Shape) (generation : Generation) :
    Interpreter → List UInt8 → Interpreter → List UInt8 → Prop
  /-- No code is carried out yet. -/
  | here (state : Interpreter) (raster : List UInt8) :
    Reaches shape generation state raster state raster
  /-- A code is carried out. -/
  | next {state mid last : Interpreter} {control : UInt8} {rest left : List UInt8} {used : Nat} :
    ¬ state.sheet.IsComplete shape →
    state.step shape generation control rest = .next mid used →
    Reaches shape generation mid (rest.drop used) last left →
    Reaches shape generation state (control :: rest) last left

/-- **A raster that ends inside a literal run, just where the sheet is
complete**: codes lead to a literal run of more bytes than are left, and
those that are left are as many as there is room for. -/
def EndsInLiteral (shape : Shape) (generation : Generation) (state : Interpreter)
    (raster : List UInt8) : Prop :=
  ∃ last control rest count, Reaches shape generation state raster last (control :: rest)
    ∧ ¬ last.sheet.IsComplete shape ∧ last.literal? generation control = some count
    ∧ rest.length < count ∧ rest.length = last.sheet.room shape

/-- A literal run completes the sheet and is cut if there is room for just
the bytes that are left. -/
theorem copy_eq_cutLiteral_iff {count : Nat} {rest : List UInt8} :
    (∃ sheet, state.copy shape count rest = .last sheet .cutLiteral)
      ↔ rest.length < count ∧ rest.length = state.sheet.room shape := by
  unfold copy
  by_cases enough : count ≤ rest.length
  · rw [if_pos enough]
    exact ⟨fun ⟨_, run⟩ => (by cases run), fun ⟨cut, _⟩ => absurd enough (Nat.not_le.mpr cut)⟩
  · rw [if_neg enough]
    have cut := Nat.lt_of_not_le enough
    unfold Ending.ofCut
    constructor
    · rintro ⟨sheet, run⟩
      injection run with _ ending
      refine ⟨cut, ?_⟩
      repeat' split at ending
      · cases ending
      · assumption
      · cases ending
    · rintro ⟨-, exactly⟩
      rw [exactly, if_neg (Nat.lt_irrefl _), if_pos rfl]
      exact ⟨_, rfl⟩

theorem repeatRow_ne_cutLiteral (count used : Nat) (sheet : Sheet) :
    state.repeatRow shape count used ≠ .last sheet .cutLiteral := by
  unfold repeatRow
  split <;> intro same <;> cases same

/-- **Only literal runs are cut.** -/
theorem step_eq_cutLiteral_iff {generation : Generation} {control : UInt8} {rest : List UInt8} :
    (∃ sheet, state.step shape generation control rest = .last sheet .cutLiteral)
      ↔ ∃ count, state.literal? generation control = some count
          ∧ rest.length < count ∧ rest.length = state.sheet.room shape := by
  cases generation with
  | first =>
    show (∃ sheet, state.stepFirst shape control rest = _) ↔ _
    by_cases literal : control.toNat < 0x80 ∧ control.toNat % 0x80 ≠ 0
    · rw [stepFirst_literal literal, copy_eq_cutLiteral_iff, literal?, if_pos literal]
      simp
    · have other : ¬ ∃ sheet, state.stepFirst shape control rest = .last sheet .cutLiteral := by
        rintro ⟨sheet, run⟩
        unfold stepFirst at run
        rw [if_neg literal] at run
        repeat' split at run
        all_goals try cases run
        exact repeatRow_ne_cutLiteral _ _ _ run
      rw [literal?, if_neg literal]
      simp [other]
  | second =>
    show (∃ sheet, state.stepSecond shape control rest = _) ↔ _
    by_cases literal : control.toNat < 0x7D
    · have run : state.stepSecond shape control rest
          = state.copy shape (state.register.size * (control.toNat % 0x80 + 1)) rest := by
        unfold stepSecond
        exact if_pos literal
      rw [run, copy_eq_cutLiteral_iff, literal?, if_pos literal]
      simp
    · have other : ¬ ∃ sheet, state.stepSecond shape control rest = .last sheet .cutLiteral := by
        rintro ⟨sheet, run⟩
        unfold stepSecond at run
        dsimp only at run
        rw [if_neg literal] at run
        repeat' split at run
        all_goals try cases run
        exact repeatRow_ne_cutLiteral _ _ _ run
      rw [literal?, if_neg literal]
      simp [other]

/-- **An interpretation ends with a literal run that is cut if and only if
the raster ends in one.** -/
theorem interpret_eq_cutLiteral_iff (generation : Generation) (raster : List UInt8) :
    (state.interpret shape generation raster).2 = .cutLiteral
      ↔ state.EndsInLiteral shape generation raster := by
  induction state, raster using interpret.induct shape generation with
  | case1 state =>
    have never : ¬ state.EndsInLiteral shape generation [] := by
      rintro ⟨last, control, rest, count, reaches, -⟩
      cases reaches
    refine ⟨fun ending => ?_, fun ends => absurd ends never⟩
    rw [interpret] at ending
    split at ending <;> cases ending
  | case2 state control rest full =>
    rw [interpret_of_isComplete full]
    refine ⟨nofun, ?_⟩
    rintro ⟨last, control, rest, count, reaches, missing, -⟩
    cases reaches with
    | here => exact absurd full missing
    | next missing => exact absurd full missing
  | case3 state control rest short next used progress ih =>
    -- The code is carried out, so it is not the run that is cut.
    rw [interpret_cons short, progress]
    dsimp only
    rw [ih]
    constructor
    · rintro ⟨last, control', rest', count, reaches, ends⟩
      exact ⟨last, control', rest', count, .next short progress reaches, ends⟩
    · rintro ⟨last, control', rest', count, reaches, missing, literal⟩
      cases reaches with
      | here =>
        obtain ⟨sheet, last⟩ := step_eq_cutLiteral_iff.mpr ⟨count, literal⟩
        rw [progress] at last
        cases last
      | next _ progress' reaches =>
        rw [progress] at progress'
        cases progress'
        exact ⟨last, control', rest', count, reaches, missing, literal⟩
  | case4 state control rest short sheet ending progress =>
    rw [interpret_cons short, progress]
    dsimp only
    constructor
    · rintro rfl
      obtain ⟨count, literal⟩ := step_eq_cutLiteral_iff.mp ⟨sheet, progress⟩
      exact ⟨state, control, rest, count, .here _ _, short, literal⟩
    · rintro ⟨last, control', rest', count, reaches, missing, literal⟩
      cases reaches with
      | here =>
        obtain ⟨sheet', last⟩ := step_eq_cutLiteral_iff.mpr ⟨count, literal⟩
        rw [progress] at last
        cases last
        rfl
      | next _ progress' =>
        rw [progress] at progress'
        cases progress'

end Interpreter

end WpgRaster.RunLength
