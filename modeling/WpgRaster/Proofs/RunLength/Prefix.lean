import WpgRaster.Proofs.RunLength.Interpreter

/-!
# Rasters that go on

A raster may be the beginning of a longer one. As long as its codes are
complete, the longer raster says the same; so what the shorter one decides
is decided, and the rows that it completes are completed
(`interpret_append`). Only the last code of the shorter raster can mean
something else, because it lacks bytes, and then it has written a part of
what the longer raster writes.

Two facts carry the argument. Writing only ever adds complete rows to a
sheet (`isPrefix_interpret`), and a code that has all its bytes does not
look at what comes behind them (`foretells_step`).
-/

namespace WpgRaster

/-! ## Sheets grow -/

namespace Sheet

variable {shape : Shape}

theorem isPrefix_write (sheet : Sheet) (byte : UInt8) :
    sheet.completed <+: (sheet.write shape byte).completed := by
  unfold write
  split
  · exact List.prefix_rfl
  · dsimp only
    split
    · exact List.prefix_append _ _
    · exact List.prefix_rfl

/-- **Written rows stay**: more bytes only add to them. -/
theorem isPrefix_writeAll (sheet : Sheet) (bytes : List UInt8) :
    sheet.completed <+: (sheet.writeAll shape bytes).completed := by
  induction bytes generalizing sheet with
  | nil => exact List.prefix_rfl
  | cons byte rest ih => exact (isPrefix_write sheet byte).trans (ih _)

theorem isPrefix_repeatAbove (sheet : Sheet) (count : Nat) :
    sheet.completed <+: (sheet.repeatAbove shape count).completed := by
  induction count generalizing sheet with
  | zero => exact List.prefix_rfl
  | succ count ih =>
    unfold repeatAbove
    split
    · exact List.prefix_rfl
    · exact (List.prefix_append sheet.completed _).trans (ih (sheet.close shape _))

/-- The complete rows of a sheet are the first ones of its frame. -/
theorem Within.isPrefix_frame {sheet : Sheet} (within : sheet.Within shape) :
    sheet.completed <+: sheet.frame shape := by
  unfold frame
  rw [List.take_append, List.take_of_length_le within.rows]
  exact List.prefix_append _ _

end Sheet

namespace RunLength

/-- What is written once a code is carried out. -/
def Progress.sheet : Progress → Sheet
  | .next state _ => state.sheet
  | .last sheet _ => sheet

namespace Interpreter

variable {shape : Shape} {state : Interpreter}

theorem isPrefix_repeatRow (count used : Nat) :
    state.sheet.completed <+: (state.repeatRow shape count used).sheet.completed := by
  unfold repeatRow
  split
  · exact state.sheet.isPrefix_repeatAbove count
  · exact List.prefix_rfl

theorem isPrefix_copy (count : Nat) (rest : List UInt8) :
    state.sheet.completed <+: (state.copy shape count rest).sheet.completed := by
  unfold copy
  split
  · exact state.sheet.isPrefix_writeAll _
  · exact state.sheet.isPrefix_writeAll _

/-- A code keeps the rows that are there. -/
theorem isPrefix_step (generation : Generation) (control : UInt8) (rest : List UInt8) :
    state.sheet.completed <+: (state.step shape generation control rest).sheet.completed := by
  cases generation with
  | first =>
    show _ <+: (state.stepFirst shape control rest).sheet.completed
    unfold stepFirst
    dsimp only
    repeat' split
    · exact isPrefix_copy _ rest
    · exact List.prefix_rfl
    · exact isPrefix_repeatRow _ _
    · exact state.sheet.isPrefix_writeAll _
    · exact state.sheet.isPrefix_writeAll _
  | second =>
    show _ <+: (state.stepSecond shape control rest).sheet.completed
    unfold stepSecond
    dsimp only
    repeat' split
    · exact isPrefix_copy _ rest
    · exact List.prefix_rfl
    · exact state.sheet.isPrefix_writeAll _
    · exact List.prefix_rfl
    · exact List.prefix_rfl
    · exact List.prefix_rfl
    · exact List.prefix_rfl
    · exact state.sheet.isPrefix_writeAll _
    · exact state.sheet.isPrefix_writeAll _
    · exact state.sheet.isPrefix_writeAll _
    · exact isPrefix_repeatRow _ _

/-- **An interpretation keeps the rows that are there.** -/
theorem isPrefix_interpret (generation : Generation) (raster : List UInt8) :
    state.sheet.completed <+: (state.interpret shape generation raster).1.completed := by
  induction state, raster using interpret.induct shape generation with
  | case1 state =>
    unfold interpret
    exact List.prefix_rfl
  | case2 state control rest full =>
    simp only [interpret_of_isComplete full, List.prefix_rfl]
  | case3 state control rest short next used progress ih =>
    have kept : state.sheet.completed
        <+: (state.step shape generation control rest).sheet.completed :=
      isPrefix_step generation control rest
    rw [progress] at kept
    rw [interpret_cons short, progress]
    exact kept.trans ih
  | case4 state control rest short sheet ending progress =>
    have kept : state.sheet.completed
        <+: (state.step shape generation control rest).sheet.completed :=
      isPrefix_step generation control rest
    rw [progress] at kept
    rw [interpret_cons short, progress]
    exact kept

/-! ## Codes with and without their bytes -/

/-- **What a code foretells** that may lack bytes, of which `left` are there:
if it is carried out, then it is the same with more bytes behind it, and so
it is if it makes no sense. If it completes the sheet, then so it does with
more bytes, and otherwise it has written a part of what there is to
write. -/
def Foretells (shape : Shape) (left : Nat) (whole : Progress) : Progress → Prop
  | .next state used => whole = .next state used ∧ used ≤ left
  | .last sheet (.aborted err) => whole = .last sheet (.aborted err)
  | .last sheet .full => sheet.IsComplete shape ∧ whole.sheet = sheet
      ∧ ∀ other ending, whole = .last other ending → ending = .full
  | .last sheet _ => sheet.completed <+: whole.sheet.completed

/-- A code that lacks its operand has written nothing. -/
theorem foretells_short {left : Nat} (generation : Generation) (control : UInt8)
    (rest : List UInt8) :
    Foretells shape left (state.step shape generation control rest) (.last state.sheet .short) :=
  isPrefix_step generation control rest

theorem foretells_repeatRow {left : Nat} (count used : Nat) (there : used ≤ left) :
    Foretells shape left (state.repeatRow shape count used) (state.repeatRow shape count used) := by
  unfold repeatRow
  split
  · exact ⟨rfl, there⟩
  · rfl

/-- A literal run writes those of its bytes that are there. -/
theorem sheet_copy (count : Nat) (rest : List UInt8) :
    (state.copy shape count rest).sheet = state.sheet.writeAll shape (rest.take count) := by
  unfold copy
  split
  · rfl
  · next cut => rw [List.take_of_length_le (Nat.le_of_not_le cut)]; rfl

/-- **A literal run that is cut** has written the bytes that are there. -/
theorem foretells_copy (within : state.sheet.Within shape) (count : Nat)
    (rest more : List UInt8) :
    Foretells shape rest.length (state.copy shape count (rest ++ more))
      (state.copy shape count rest) := by
  have whole : (state.copy shape count (rest ++ more)).sheet
      = state.sheet.writeAll shape ((rest ++ more).take count) := sheet_copy count _
  have run : state.copy shape count (rest ++ more)
      = if count ≤ (rest ++ more).length then
          state.emit shape ((rest ++ more).take count) count
        else .last (state.sheet.writeAll shape (rest ++ more))
          (.ofCut (rest ++ more).length (state.sheet.room shape)) := rfl
  unfold copy
  by_cases enough : count ≤ rest.length
  · rw [if_pos enough, if_pos (by rw [List.length_append]; omega),
      List.take_append_of_le_length enough]
    exact ⟨rfl, enough⟩
  rw [if_neg enough, ← run]
  -- the longer run writes the same bytes, and then others
  rw [List.take_append, List.take_of_length_le (Nat.le_of_not_le enough),
    Sheet.writeAll_append] at whole
  have written : (state.sheet.writeAll shape rest).completed
      <+: (state.copy shape count (rest ++ more)).sheet.completed := by
    rw [whole]
    exact Sheet.isPrefix_writeAll _ _
  unfold Ending.ofCut
  by_cases few : rest.length < state.sheet.room shape
  · rw [if_pos few]
    exact written
  rw [if_neg few]
  by_cases exactly : rest.length = state.sheet.room shape
  · rw [if_pos exactly]
    exact written
  -- more bytes are there than there is room for
  rw [if_neg exactly]
  have full := (within.isComplete_writeAll_iff rest).mpr (Nat.le_of_not_lt few)
  refine ⟨full, whole.trans (Sheet.writeAll_of_isComplete full _), fun other ending last => ?_⟩
  rw [run, List.length_append] at last
  split at last
  · cases last
  · cases last
    unfold Ending.ofCut
    rw [if_neg (by omega), if_neg (by omega)]

/-- **A code foretells itself**, with more bytes behind those that are there. -/
theorem foretells_step (within : state.sheet.Within shape) (generation : Generation)
    (control : UInt8) (rest more : List UInt8) :
    Foretells shape rest.length (state.step shape generation control (rest ++ more))
      (state.step shape generation control rest) := by
  have short : Foretells shape rest.length (state.step shape generation control (rest ++ more))
      (.last state.sheet .short) := foretells_short generation control (rest ++ more)
  cases generation with
  | first =>
    change Foretells shape _ (state.stepFirst shape control (rest ++ more)) _ at short
    show Foretells shape _ (state.stepFirst shape control (rest ++ more))
      (state.stepFirst shape control rest)
    unfold stepFirst at short ⊢
    dsimp only at short ⊢
    split
    · exact foretells_copy within _ rest more
    · next other =>
      rw [if_neg other] at short
      cases rest with
      | nil => exact short
      | cons operand rest =>
        dsimp only [List.cons_append]
        repeat' split
        · exact foretells_repeatRow _ 1 (Nat.succ_pos _)
        · exact ⟨rfl, Nat.succ_pos _⟩
        · exact ⟨rfl, Nat.succ_pos _⟩
  | second =>
    change Foretells shape _ (state.stepSecond shape control (rest ++ more)) _ at short
    show Foretells shape _ (state.stepSecond shape control (rest ++ more))
      (state.stepSecond shape control rest)
    unfold stepSecond at short ⊢
    dsimp only at short ⊢
    by_cases literal : control.toNat < 0x7D
    · rw [if_pos literal, if_pos literal]
      exact foretells_copy within _ rest more
    by_cases toggle : control.toNat = 0x7E
    · rw [if_neg literal, if_neg literal, if_pos toggle, if_pos toggle]
      exact ⟨rfl, Nat.zero_le _⟩
    rw [if_neg literal, if_neg toggle] at short ⊢
    rw [if_neg literal, if_neg toggle]
    by_cases sample : 0x80 ≤ control.toNat ∧ control.toNat < 0xFD
    · rw [if_pos sample] at short ⊢
      rw [if_pos sample]
      by_cases enough : state.register.size ≤ rest.length
      · rw [if_pos enough, if_pos (by rw [List.length_append]; omega),
          List.take_append_of_le_length enough]
        exact ⟨rfl, enough⟩
      · rw [if_neg enough]
        exact short
    rw [if_neg sample] at short ⊢
    rw [if_neg sample]
    cases rest with
    | nil => exact short
    | cons operand rest =>
      dsimp only [List.cons_append]
      repeat' split
      · exact ⟨rfl, Nat.succ_pos _⟩
      · rfl
      · exact ⟨rfl, Nat.succ_pos _⟩
      · exact ⟨rfl, Nat.succ_pos _⟩
      · exact ⟨rfl, Nat.succ_pos _⟩
      · exact foretells_repeatRow _ 1 (Nat.succ_pos _)

/-! ## Interpretations -/

/-- **What an interpretation decides** for all rasters that begin with its
own: the rows that it completes, and all of it if it ends with all rows or
at a code that makes no sense. -/
structure Decides (cut whole : Sheet × Ending) : Prop where
  /-- The rows that are complete are the first ones. -/
  completed : cut.1.completed <+: whole.1.completed
  /-- If no byte is missing, then more of them change nothing. -/
  settled : cut.2 = .full ∨ (∃ err, cut.2 = .aborted err) → whole = cut

/-- An interpretation decides itself. -/
theorem Decides.refl (final : Sheet × Ending) : Decides final final :=
  ⟨List.prefix_rfl, fun _ => rfl⟩

/-- **A raster decides what it says**, whatever comes behind it. -/
theorem interpret_append (within : state.sheet.Within shape) (generation : Generation)
    (raster more : List UInt8) :
    Decides (state.interpret shape generation raster)
      (state.interpret shape generation (raster ++ more)) := by
  induction state, raster using interpret.induct shape generation with
  | case1 state =>
    by_cases full : state.sheet.IsComplete shape
    · rw [interpret_of_isComplete full, interpret_of_isComplete full]
      exact .refl _
    · rw [interpret_nil full]
      exact ⟨isPrefix_interpret generation _, by rintro (same | ⟨err, same⟩) <;> cases same⟩
  | case2 state control rest full =>
    rw [interpret_of_isComplete full, interpret_of_isComplete full]
    exact .refl _
  | case3 state control rest short next used progress ih =>
    have stays := stays_step within short generation control rest
    have same := foretells_step within generation control rest more
    rw [progress] at stays same
    obtain ⟨same, there⟩ := same
    rw [List.cons_append, interpret_cons short, interpret_cons short, progress, same]
    dsimp only
    rw [List.drop_append_of_le_length there]
    exact ih stays
  | case4 state control rest short sheet ending progress =>
    have same := foretells_step within generation control rest more
    have kept : (state.step shape generation control (rest ++ more)).sheet.completed
        <+: (state.interpret shape generation (control :: rest ++ more)).1.completed := by
      rw [List.cons_append, interpret_cons short]
      split
      · next progress' => rw [progress']; exact isPrefix_interpret generation _
      · next progress' => rw [progress']; exact List.prefix_rfl
    rw [progress] at same
    rw [interpret_cons short, progress]
    dsimp only
    cases ending with
    | full =>
      obtain ⟨full, rfl, last⟩ := same
      have whole : state.interpret shape generation (control :: rest ++ more)
          = ((state.step shape generation control (rest ++ more)).sheet, .full) := by
        rw [List.cons_append, interpret_cons short]
        split
        · next progress' =>
          rw [progress'] at full ⊢
          exact interpret_of_isComplete full _ _
        · next progress' =>
          rw [progress', last _ _ progress']
          rfl
      rw [whole]
      exact .refl _
    | cutLiteral =>
      exact ⟨same.trans kept, by rintro (same | ⟨err, same⟩) <;> cases same⟩
    | short =>
      exact ⟨same.trans kept, by rintro (same | ⟨err, same⟩) <;> cases same⟩
    | aborted err =>
      change state.step shape generation control (rest ++ more) = _ at same
      rw [List.cons_append, interpret_cons short, same]
      exact .refl _

end Interpreter

end RunLength

end WpgRaster
