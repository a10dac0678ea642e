import WpgRaster.Proofs.Row.Assembly
import WpgRaster.Proofs.RunLength.Interpreter
import WpgRaster.Proofs.Source.Rest
import WpgRaster.RunLength.Decode

/-!
# Decoding is interpretation

Decoding a compressed raster from a cursor, with a consumer that accepts
all rows and a stop that never fires, does what the interpreter says: the
assembler holds the sheet that the interpreter has written, and the
decoder ends with the error that belongs to the ending
(`decode_interprets`). One code is one step of both (`step_agrees`), and
the rest is an induction on the number of codes.

The two differ in one place. The interpreter looks whether the sheet is
complete before the next code, the assembler refuses the first byte that
finds no room. So a step of the decoder may end with
`RasterError.rowsExhausted` where the interpreter takes one more look.
-/

namespace WpgRaster

/-- A stop that never fires. -/
def Stop.Silent (stop : Stop) : Prop := ∀ asked, stop.answer asked = none

/-- A silent stop lets the decoder go on, and stays silent. -/
theorem Stop.Silent.check {stop : Stop} (silent : stop.Silent) :
    ∃ asked, Stop.check stop = .ok () asked ∧ asked.Silent := by
  unfold Stop.check
  rw [silent stop.checks]
  exact ⟨_, rfl, silent⟩

namespace RunLength

variable {κ : Type} [RowConsumer κ] {start : κ} {shape : Shape} {sheet : Sheet}

/-- The error a decoder ends with. It is not yet what is reported: that
all rows are there is no error of the frame. -/
def Ending.error : Ending → RasterError
  | full => .rowsExhausted
  | cutLiteral | short => .streamTruncated
  | aborted err => err

/-- **A session that follows the interpreter**: its assembler holds the
sheet that is written, its cursor has the rest of the raster, and its stop
never fires. -/
structure Follows (start : κ) (shape : Shape) (sheet : Sheet) (raster : List UInt8)
    (session : Session Cursor κ) : Prop where
  /-- The sheet written so far. -/
  holds : Holds start shape sheet session.rows
  /-- The codes still to come. -/
  source : session.source.rest = raster
  /-- Nobody stops the session. -/
  silent : session.stop.Silent

/-- Asking a silent stop changes nothing else. -/
theorem Follows.checkStop {raster : List UInt8} {session : Session Cursor κ}
    (follows : Follows start shape sheet raster session) :
    ∃ asked, Session.checkStop session = .ok () asked
      ∧ Follows start shape sheet raster asked := by
  obtain ⟨stop, asked, silent⟩ := follows.silent.check
  rw [Session.checkStop_eq, asked]
  exact ⟨_, rfl, follows.holds, follows.source, silent⟩

/-- **A result that agrees with the interpreter**: the session goes on with
the state of the interpreter, or it ran out of room and the sheet is
complete; or it ends where the interpreter ends. -/
def Agrees {α : Type} (start : κ) (shape : Shape) (rest : List UInt8)
    (value : Interpreter → α) (progress : Progress)
    (result : EStateM.Result RasterError (Session Cursor κ) α) : Prop :=
  match progress with
  | .next state used =>
    (∃ session, result = .ok (value state) session
      ∧ Follows start shape state.sheet (rest.drop used) session)
    ∨ ∃ session, result = .error .rowsExhausted session
      ∧ Holds start shape state.sheet session.rows ∧ state.sheet.IsComplete shape
  | .last sheet ending =>
    ∃ session, result = .error ending.error session ∧ Holds start shape sheet session.rows

/-! ## Runs -/

/-- An operation on the rows, with a consumer that accepts them all. -/
theorem Follows.onRows {raster : List UInt8} {session : Session Cursor κ}
    (follows : Follows start shape sheet raster session) {op : RowM κ Unit} {fits : Prop}
    [Decidable fits] {sheet' : Sheet}
    (lands : Lands start shape fits sheet' (op session.rows))
    (accepts : Accepts start shape.rows) :
    (fits ∧ ∃ session', Session.onRows op session = .ok () session'
      ∧ Follows start shape sheet' raster session')
    ∨ ¬ fits ∧ ∃ session', Session.onRows op session = .error .rowsExhausted session'
      ∧ Holds start shape sheet' session'.rows := by
  obtain ⟨rows, holds, landed⟩ := lands.of_accepts accepts
  rw [Session.onRows_eq, landed]
  by_cases room : fits
  · rw [if_pos room]
    exact .inl ⟨room, _, rfl, holds, follows.source, follows.silent⟩
  · rw [if_neg room]
    exact .inr ⟨room, _, rfl, holds⟩

/-- **A literal run** ends in one of three ways: it is over, there is no
room for its next byte, or there is no next byte. The byte is asked for
first. -/
theorem copy_follows (accepts : Accepts start shape.rows) (count : Nat)
    {raster : List UInt8} {session : Session Cursor κ}
    (follows : Follows start shape sheet raster session) :
    (count ≤ raster.length ∧ count ≤ sheet.room shape
      ∧ ∃ session', copy count session = .ok () session'
        ∧ Follows start shape (sheet.writeAll shape (raster.take count)) (raster.drop count)
          session')
    ∨ (sheet.room shape < raster.length ∧ sheet.room shape < count
      ∧ ∃ session', copy count session = .error .rowsExhausted session'
        ∧ Holds start shape (sheet.writeAll shape (raster.take count)) session'.rows)
    ∨ (raster.length < count ∧ raster.length ≤ sheet.room shape
      ∧ ∃ session', copy count session = .error .streamTruncated session'
        ∧ Holds start shape (sheet.writeAll shape raster) session'.rows) := by
  -- By induction on the run. Which of the run, the room and the raster is
  -- used up first decides among the three.
  induction count generalizing sheet raster session with
  | zero =>
    exact .inl ⟨Nat.zero_le _, Nat.zero_le _, session, rfl, follows⟩
  | succ count ih =>
    have within := follows.holds.toWithin
    unfold copy
    cases raster with
    | nil =>
      refine .inr (.inr ⟨Nat.succ_pos count, Nat.zero_le _, session, ?_, follows.holds⟩)
      refine bind_of_error ?_
      rw [Session.onSource_eq, Token.nextByte_nil follows.source]
    | cons byte rest =>
      have read : Session.onSource Token.nextByte session
          = .ok byte { session with source := session.source.advance 1 } := by
        rw [Session.onSource_eq, Token.nextByte_cons follows.source]
      have behind : Follows start shape sheet rest
          { session with source := session.source.advance 1 } :=
        ⟨follows.holds, by
          show (session.source.advance 1).rest = rest
          rw [Cursor.rest_advance, follows.source]
          rfl, follows.silent⟩
      rw [bind_of_ok read, List.length_cons]
      obtain ⟨short, session', written, follows'⟩ | ⟨full, session', failed, holds⟩ :=
        behind.onRows (follows.holds.append_lands byte) accepts
      · -- the byte found room, so the run goes on behind it
        have room : 0 < sheet.room shape := by
          rw [← within.room_eq_zero_iff] at short
          omega
        rw [bind_of_ok written]
        have tail := ih follows'
        rw [within.room_write] at tail
        obtain ⟨enough, fits, done⟩ | ⟨many, beyond, out⟩ | ⟨few, fits, ended⟩ := tail
        · exact .inl ⟨by omega, by omega, done⟩
        · exact .inr (.inl ⟨by omega, by omega, out⟩)
        · exact .inr (.inr ⟨by omega, by omega, ended⟩)
      · -- all rows were there already
        rw [Decidable.not_not] at full
        rw [Sheet.write_of_isComplete full] at holds
        rw [bind_of_error failed, within.room_eq_zero_iff.mpr full,
          Sheet.writeAll_of_isComplete full]
        exact .inr (.inl ⟨Nat.succ_pos _, Nat.succ_pos _, session', rfl, holds⟩)

/-- **A literal run does what the interpreter says.** -/
theorem copy_agrees (accepts : Accepts start shape.rows) (count : Nat) {state : Interpreter}
    {rest : List UInt8} {session : Session Cursor κ}
    (follows : Follows start shape state.sheet rest session) :
    Agrees start shape rest (fun _ => ()) (state.copy shape count rest)
      (copy count session) := by
  have within := follows.holds.toWithin
  unfold Interpreter.copy
  obtain ⟨enough, -, done⟩ | ⟨many, beyond, session', failed, holds⟩
    | ⟨few, fits, session', failed, holds⟩ := copy_follows accepts count follows
  · rw [if_pos enough]
    exact .inl done
  · -- There was a byte for which there was no room, so the sheet is complete.
    by_cases enough : count ≤ rest.length
    · rw [if_pos enough]
      refine .inr ⟨session', failed, holds, ?_⟩
      refine (within.isComplete_writeAll_iff _).mpr ?_
      rw [List.length_take]
      omega
    · rw [if_neg enough, Ending.ofCut, if_neg (by omega), if_neg (by omega)]
      rw [List.take_of_length_le (by omega)] at holds
      exact ⟨session', failed, holds⟩
  · -- There was no byte. The interpreter looks how much room was left.
    rw [if_neg (by omega), Ending.ofCut]
    by_cases exactly : rest.length = state.sheet.room shape
    · rw [if_neg (by omega), if_pos exactly]
      exact ⟨session', failed, holds⟩
    · rw [if_pos (by omega)]
      exact ⟨session', failed, holds⟩

/-- Writing several copies of a few bytes does what the interpreter says. -/
theorem appendRepeated_agrees (accepts : Accepts start shape.rows) {state : Interpreter}
    {rest : List UInt8} {used : Nat} {session : Session Cursor κ}
    (follows : Follows start shape state.sheet (rest.drop used) session)
    (bytes : List UInt8) (count : Nat) :
    Agrees start shape rest (fun _ => ())
      (state.emit shape (List.replicate count bytes).flatten used)
      (Session.onRows (RowAssembler.appendRepeated bytes count) session) := by
  have within := follows.holds.toWithin
  obtain ⟨-, session', done, follows'⟩ | ⟨beyond, session', failed, holds⟩ :=
    follows.onRows (follows.holds.appendRepeated_lands bytes count) accepts
  · exact .inl ⟨session', done, follows'⟩
  · refine .inr ⟨session', failed, holds, ?_⟩
    refine (within.isComplete_writeAll_iff _).mpr ?_
    rw [List.length_flatten, List.map_replicate, List.sum_replicate_nat]
    omega

/-- Repeating a row does what the interpreter says. -/
theorem repeatRow_agrees (accepts : Accepts start shape.rows) {state : Interpreter}
    {rest : List UInt8} {used : Nat} {session : Session Cursor κ}
    (follows : Follows start shape state.sheet (rest.drop used) session) (count : Nat) :
    Agrees start shape rest (fun _ => ()) (state.repeatRow shape count used)
      (Session.onRows (RowAssembler.repeatRow count) session) := by
  unfold Interpreter.repeatRow
  by_cases fresh : state.sheet.current = []
  · rw [if_pos fresh]
    obtain ⟨-, session', done, follows'⟩ | ⟨no, -⟩ :=
      follows.onRows (follows.holds.repeatRow_lands fresh count) accepts
    · exact .inl ⟨session', done, follows'⟩
    · exact absurd trivial no
  · rw [if_neg fresh]
    refine ⟨session, ?_, follows.holds⟩
    rw [Session.onRows_eq, follows.holds.repeatRow_of_current_ne_nil fresh]
    rfl

/-! ## Codes -/

/-- A value computed from a result that agrees. -/
theorem Agrees.map {α β : Type} {rest : List UInt8} {value : Interpreter → α}
    {progress : Progress} {action : SessionM Cursor κ α} {session : Session Cursor κ}
    (agrees : Agrees start shape rest value progress (action session))
    {value' : Interpreter → β} {f : α → β}
    (same : ∀ state used, progress = .next state used → f (value state) = value' state) :
    Agrees start shape rest value' progress
      ((action >>= fun a => pure (f a)) session) := by
  cases progress with
  | next state used =>
    obtain ⟨session', done, follows⟩ | ⟨session', failed, full⟩ := agrees
    · refine .inl ⟨session', ?_, follows⟩
      rw [bind_of_ok done, same state used rfl]
      rfl
    · exact .inr ⟨session', bind_of_error failed, full⟩
  | last sheet ending =>
    obtain ⟨session', failed, holds⟩ := agrees
    exact ⟨session', bind_of_error failed, holds⟩

/-- Copying answers the register it found. -/
theorem performCopy_agrees (accepts : Accepts start shape.rows) (count : Nat)
    {state : Interpreter} {rest : List UInt8} {session : Session Cursor κ}
    (follows : Follows start shape state.sheet rest session) :
    Agrees start shape rest Interpreter.register (state.copy shape count rest)
      (perform (.copy count) state.register session) := by
  refine (copy_agrees accepts count follows).map fun next used done => ?_
  unfold Interpreter.copy at done
  split at done
  · cases done
    rfl
  · cases done

theorem performFill_agrees (accepts : Accepts start shape.rows) {state : Interpreter}
    {rest : List UInt8} {used : Nat} {session : Session Cursor κ}
    (follows : Follows start shape state.sheet (rest.drop used) session)
    (value : UInt8) (count : Nat) :
    Agrees start shape rest Interpreter.register
      (state.emit shape (List.replicate count value) used)
      (perform (.fill value count) state.register session) := by
  have repeated := appendRepeated_agrees accepts follows [value] count
  rw [List.flatten_replicate_singleton] at repeated
  refine repeated.map fun next used done => ?_
  cases done
  rfl

theorem performRepeatSample_agrees (accepts : Accepts start shape.rows) (state : Interpreter)
    {rest : List UInt8} {used : Nat} {session : Session Cursor κ}
    (follows : Follows start shape state.sheet (rest.drop used) session) (count : Nat) :
    Agrees start shape rest Interpreter.register
      (state.emit shape (List.replicate count state.register.sample).flatten used)
      (perform (.repeatSample count) state.register session) := by
  refine (appendRepeated_agrees accepts follows _ count).map fun next used done => ?_
  cases done
  rfl

theorem performRepeatRow_agrees (accepts : Accepts start shape.rows) {state : Interpreter}
    {rest : List UInt8} {used : Nat} {session : Session Cursor κ}
    (follows : Follows start shape state.sheet (rest.drop used) session) (count : Nat) :
    Agrees start shape rest Interpreter.register (state.repeatRow shape count used)
      (perform (.repeatRow count) state.register session) := by
  refine (repeatRow_agrees accepts follows count).map fun next used done => ?_
  unfold Interpreter.repeatRow at done
  split at done
  · cases done
    rfl
  · cases done

/-- Once a token is read, the step agrees if carrying the token out does.
The stop, which is asked if a row was completed, has no say. -/
theorem step_of_read {generation : Generation} {reg : SampleRegister} {token : Token}
    {reg' : SampleRegister} {source : Cursor} {session : Session Cursor κ}
    (read : Token.read generation reg session.source = .ok (token, reg') source)
    {rest : List UInt8} {progress : Progress}
    (performed : Agrees start shape rest Interpreter.register progress
      (perform token reg' { session with source })) :
    Agrees start shape rest Interpreter.register progress (step generation reg session) := by
  have second : Session.onSource (Token.read generation reg) session
      = .ok (token, reg') { session with source } := by
    rw [Session.onSource_eq, read]
  unfold step
  rw [bind_of_ok session.assembler_eq, bind_of_ok second]
  dsimp only
  cases progress with
  | last sheet ending =>
    obtain ⟨session', failed, holds⟩ := performed
    exact ⟨session', bind_of_error failed, holds⟩
  | next state used =>
    obtain ⟨session', done, follows⟩ | ⟨session', failed, full⟩ := performed
    · rw [bind_of_ok done]
      rw [bind_of_ok session'.assembler_eq]
      by_cases same : session'.rows.assembler.row = session.rows.assembler.row
      · rw [if_neg (not_not_intro same)]
        exact .inl ⟨session', rfl, follows⟩
      · rw [if_pos same]
        obtain ⟨asked, checked, follows'⟩ := follows.checkStop
        rw [bind_of_ok checked]
        exact .inl ⟨asked, rfl, follows'⟩
    · exact .inr ⟨session', bind_of_error failed, full⟩

/-- A token that cannot be read ends the step. -/
theorem step_of_read_error (ending : Ending) {generation : Generation}
    {reg : SampleRegister} {source : Cursor} {session : Session Cursor κ} {raster : List UInt8}
    (read : Token.read generation reg session.source = .error ending.error source)
    (follows : Follows start shape sheet raster session) {rest : List UInt8} :
    Agrees start shape rest Interpreter.register (.last sheet ending)
      (step generation reg session) := by
  have second : Session.onSource (Token.read generation reg) session
      = .error ending.error { session with source } := by
    rw [Session.onSource_eq, read]
  unfold step
  rw [bind_of_ok session.assembler_eq, bind_of_error second]
  exact ⟨_, rfl, follows.holds⟩

/-- Reading takes bytes from the front of the raster. -/
theorem Follows.advance {raster : List UInt8} {session : Session Cursor κ}
    (follows : Follows start shape sheet raster session) (count : Nat) :
    Follows start shape sheet (raster.drop count)
      { session with source := session.source.advance count } := by
  refine ⟨follows.holds, ?_, follows.silent⟩
  show (session.source.advance count).rest = raster.drop count
  rw [Cursor.rest_advance, follows.source]

/-- **A code of the first generation** does what the interpreter says. -/
theorem stepFirst_agrees (accepts : Accepts start shape.rows) {state : Interpreter}
    {control : UInt8} {rest : List UInt8} {session : Session Cursor κ}
    (follows : Follows start shape state.sheet (control :: rest) session) :
    Agrees start shape rest Interpreter.register (state.stepFirst shape control rest)
      (step .first state.register session) := by
  have code := Token.operand_cons follows.source
  have behind := follows.advance 1
  rw [List.drop_succ_cons, List.drop_zero] at behind
  unfold Interpreter.stepFirst
  dsimp only
  by_cases literal : control.toNat < 0x80 ∧ control.toNat % 0x80 ≠ 0
  · have read : Token.readFirst session.source
        = .ok (.copy (control.toNat % 0x80)) (session.source.advance 1) := by
      unfold Token.readFirst
      rw [bind_of_ok code, if_pos literal.1, if_neg literal.2]
      rfl
    rw [if_pos literal]
    exact step_of_read (bind_of_ok read) (performCopy_agrees accepts _ behind)
  · rw [if_neg literal]
    cases rest with
    | nil =>
      -- every other code has an operand
      have read : Token.readFirst session.source
          = .error .streamTruncated (session.source.advance 1) := by
        have none := Token.operand_nil behind.source
        unfold Token.readFirst
        rw [bind_of_ok code]
        by_cases low : control.toNat < 0x80
        · rw [if_pos low, if_pos (Decidable.not_not.mp fun n => literal ⟨low, n⟩)]
          exact bind_of_error none
        · rw [if_neg low]
          by_cases zero : control.toNat % 0x80 = 0
          · rw [if_pos zero]
            exact bind_of_error none
          · rw [if_neg zero]
            exact bind_of_error (Token.nextByte_nil behind.source)
      exact step_of_read_error .short (bind_of_error read) follows
    | cons operand rest =>
      have number := Token.operand_cons behind.source
      have further := behind.advance 1
      dsimp only
      by_cases low : control.toNat < 0x80
      · have read : Token.readFirst session.source
            = .ok (.repeatRow operand.toNat) ((session.source.advance 1).advance 1) := by
          unfold Token.readFirst
          rw [bind_of_ok code, if_pos low,
            if_pos (Decidable.not_not.mp fun n => literal ⟨low, n⟩), bind_of_ok number]
          rfl
        rw [if_pos low]
        exact step_of_read (bind_of_ok read) (performRepeatRow_agrees accepts further _)
      · rw [if_neg low]
        by_cases zero : control.toNat % 0x80 = 0
        · have read : Token.readFirst session.source
              = .ok (.fill 0xFF operand.toNat) ((session.source.advance 1).advance 1) := by
            unfold Token.readFirst
            rw [bind_of_ok code, if_neg low, if_pos zero, bind_of_ok number]
            rfl
          rw [if_pos zero]
          exact step_of_read (bind_of_ok read) (performFill_agrees accepts further _ _)
        · have read : Token.readFirst session.source
              = .ok (.fill operand (control.toNat % 0x80))
                ((session.source.advance 1).advance 1) := by
            unfold Token.readFirst
            rw [bind_of_ok code, if_neg low, if_neg zero,
              bind_of_ok (Token.nextByte_cons behind.source)]
            rfl
          rw [if_neg zero]
          exact step_of_read (bind_of_ok read) (performFill_agrees accepts further _ _)

/-- A control byte of the second generation that is none of the special
ones. -/
theorem readSecond_of_plain (register : SampleRegister) {control : Nat}
    {cursor mid : Cursor} (code : Token.operand cursor = .ok control mid)
    (plain : control < 0x7D ∨ 0x80 ≤ control ∧ control < 0xFD) :
    Token.read .second register cursor
      = (if control < 0x80 then pure (.copy (register.runBytes (control % 0x80)), register)
        else do return (.repeatSample (control % 0x80 + 1),
          register.load (← Token.nextBytes register.size)) :
        EStateM RasterError Cursor (Token × SampleRegister)) mid := by
  show Token.readSecond register cursor = _
  unfold Token.readSecond
  rw [bind_of_ok code]
  split
  all_goals first | omega | rfl

/-- A sample of the right size is what the register has once it is loaded. -/
theorem sample_load {register : SampleRegister} {sample : List UInt8}
    (size : sample.length = register.size) : (register.load sample).sample = sample := by
  unfold SampleRegister.sample SampleRegister.load
  dsimp only
  rw [List.take_append_of_le_length (by omega), ← size, List.take_length]

/-- A code that brings a sample along. -/
theorem loadSample_agrees (accepts : Accepts start shape.rows) {state : Interpreter}
    {control : UInt8} {rest : List UInt8} {session : Session Cursor κ}
    (follows : Follows start shape state.sheet (control :: rest) session)
    (sample : 0x80 ≤ control.toNat ∧ control.toNat < 0xFD) :
    Agrees start shape rest Interpreter.register (state.stepSecond shape control rest)
      (step .second state.register session) := by
  have plain := readSecond_of_plain state.register
    (Token.operand_cons follows.source) (.inr sample)
  have behind := follows.advance 1
  rw [List.drop_succ_cons, List.drop_zero] at behind
  unfold Interpreter.stepSecond
  dsimp only
  rw [if_neg (by omega)] at plain
  rw [if_neg (by omega), if_neg (by omega), if_pos sample]
  by_cases enough : state.register.size ≤ rest.length
  · have taken := Token.nextBytes_of_le (session.source.advance 1)
      state.register.size (by rw [behind.source]; exact enough)
    rw [behind.source] at taken
    have read : Token.read .second state.register session.source
        = .ok (.repeatSample (control.toNat % 0x80 + 1),
            state.register.load (rest.take state.register.size))
          ((session.source.advance 1).advance state.register.size) := by
      rw [plain, bind_of_ok taken]
      rfl
    have size : (rest.take state.register.size).length = state.register.size := by
      rw [List.length_take]
      omega
    have loaded : state.register.load (rest.take state.register.size)
        = { state.register with
            bytes := rest.take state.register.size
              ++ state.register.bytes.drop state.register.size } := by
      unfold SampleRegister.load
      rw [size]
    have performed := performRepeatSample_agrees accepts
      { state with register := state.register.load (rest.take state.register.size) }
      (behind.advance state.register.size) (control.toNat % 0x80 + 1)
    rw [sample_load size] at performed
    rw [if_pos enough, ← loaded]
    exact step_of_read read performed
  · obtain ⟨source, none⟩ := Token.nextBytes_of_lt (session.source.advance 1)
      state.register.size (by rw [behind.source]; omega)
    rw [if_neg enough]
    exact step_of_read_error .short (plain.trans (bind_of_error none)) follows

/-- A code that has an operand. -/
theorem withOperand_agrees (accepts : Accepts start shape.rows) {state : Interpreter}
    {control : UInt8} {rest : List UInt8} {session : Session Cursor κ}
    (follows : Follows start shape state.sheet (control :: rest) session)
    (special : control.toNat = 0x7D ∨ control.toNat = 0x7F ∨ control.toNat = 0xFD
      ∨ control.toNat = 0xFE ∨ control.toNat = 0xFF) :
    Agrees start shape rest Interpreter.register (state.stepSecond shape control rest)
      (step .second state.register session) := by
  have code := Token.operand_cons follows.source
  have behind := follows.advance 1
  rw [List.drop_succ_cons, List.drop_zero] at behind
  unfold Interpreter.stepSecond
  dsimp only
  rw [if_neg (by omega), if_neg (by omega), if_neg (by omega)]
  cases rest with
  | nil =>
    have none := Token.operand_nil behind.source
    have read : Token.read .second state.register session.source
        = .error .streamTruncated (session.source.advance 1) := by
      obtain is | is | is | is | is := special
      all_goals
        rw [is] at code
        exact (bind_of_ok code).trans (bind_of_error none)
    exact step_of_read_error .short read follows
  | cons operand rest =>
    have number := Token.operand_cons behind.source
    have further := behind.advance 1
    dsimp only
    obtain is | is | is | is | is := special
    all_goals
      rw [is] at code ⊢
    · -- `0x7D`: samples of another size
      rw [if_pos rfl]
      by_cases valid : 1 ≤ operand.toNat ∧ operand.toNat ≤ 8
      · have read : Token.read .second state.register session.source
            = .ok (.setSampleSize operand.toNat, state.register)
              ((session.source.advance 1).advance 1) := by
          refine (bind_of_ok code).trans ((bind_of_ok number).trans ?_)
          rw [if_pos valid]
          rfl
        rw [if_pos valid]
        exact step_of_read read (.inl ⟨_, rfl, further⟩)
      · have read : Token.read .second state.register session.source
            = .error (.invalidSampleSize operand.toNat)
              ((session.source.advance 1).advance 1) := by
          refine (bind_of_ok code).trans ((bind_of_ok number).trans ?_)
          rw [if_neg valid]
          rfl
        rw [if_neg valid]
        exact step_of_read_error (.aborted _) read follows
    · -- `0x7F`: zeros
      have read : Token.read .second state.register session.source
          = .ok (.fill 0x00 (state.register.runBytes operand.toNat), state.register)
            ((session.source.advance 1).advance 1) :=
        (bind_of_ok code).trans (bind_of_ok number)
      exact step_of_read read (performFill_agrees accepts further _ _)
    · -- `0xFD`: the last sample
      have read : Token.read .second state.register session.source
          = .ok (.repeatSample (operand.toNat + 1), state.register)
            ((session.source.advance 1).advance 1) :=
        (bind_of_ok code).trans (bind_of_ok number)
      exact step_of_read read (performRepeatSample_agrees accepts state further _)
    · -- `0xFE`: the row above
      have read : Token.read .second state.register session.source
          = .ok (.repeatRow (operand.toNat + 1), state.register)
            ((session.source.advance 1).advance 1) :=
        (bind_of_ok code).trans (bind_of_ok number)
      exact step_of_read read (performRepeatRow_agrees accepts further _)
    · -- `0xFF`: ones
      have read : Token.read .second state.register session.source
          = .ok (.fill 0xFF (state.register.runBytes operand.toNat), state.register)
            ((session.source.advance 1).advance 1) :=
        (bind_of_ok code).trans (bind_of_ok number)
      exact step_of_read read (performFill_agrees accepts further _ _)

/-- **A code of the second generation** does what the interpreter says. -/
theorem stepSecond_agrees (accepts : Accepts start shape.rows) {state : Interpreter}
    {control : UInt8} {rest : List UInt8} {session : Session Cursor κ}
    (follows : Follows start shape state.sheet (control :: rest) session) :
    Agrees start shape rest Interpreter.register (state.stepSecond shape control rest)
      (step .second state.register session) := by
  by_cases sample : 0x80 ≤ control.toNat ∧ control.toNat < 0xFD
  · exact loadSample_agrees accepts follows sample
  have code := Token.operand_cons follows.source
  have behind := follows.advance 1
  rw [List.drop_succ_cons, List.drop_zero] at behind
  by_cases literal : control.toNat < 0x7D
  · have read : Token.read .second state.register session.source
        = .ok (.copy (state.register.runBytes (control.toNat % 0x80)), state.register)
          (session.source.advance 1) := by
      rw [readSecond_of_plain _ code (.inl literal), if_pos (by omega)]
      rfl
    unfold Interpreter.stepSecond
    dsimp only
    rw [if_pos literal]
    exact step_of_read read (performCopy_agrees accepts _ behind)
  by_cases toggle : control.toNat = 0x7E
  · have read : Token.read .second state.register session.source
        = .ok (.toggleDelta, state.register) (session.source.advance 1) := by
      rw [toggle] at code
      exact bind_of_ok code
    unfold Interpreter.stepSecond
    dsimp only
    rw [if_neg literal, if_pos toggle]
    refine step_of_read read (.inl ⟨_, rfl, ?_⟩)
    exact ⟨follows.holds.toggleDelta, behind.source, behind.silent⟩
  · have byte := control.toNat_lt
    exact withOperand_agrees accepts follows (by omega)

/-- **One code is one step**, in either generation. -/
theorem step_agrees (accepts : Accepts start shape.rows) (generation : Generation)
    {state : Interpreter} {control : UInt8} {rest : List UInt8} {session : Session Cursor κ}
    (follows : Follows start shape state.sheet (control :: rest) session) :
    Agrees start shape rest Interpreter.register (state.step shape generation control rest)
      (step generation state.register session) := by
  cases generation with
  | first => exact stepFirst_agrees accepts follows
  | second => exact stepSecond_agrees accepts follows

/-! ## Whole rasters -/

/-- A session that ends as an interpretation does. When all rows are there,
it may end with an error or without one. -/
def Ends (start : κ) (shape : Shape) (final : Sheet × Ending)
    (result : EStateM.Result RasterError (Session Cursor κ) Unit) : Prop :=
  ∃ session, Holds start shape final.1 session.rows
    ∧ (result = .error final.2.error session ∨ final.2 = .full ∧ result = .ok () session)

/-- At the end of the raster there is no code. -/
theorem step_nil {session : Session Cursor κ} (generation : Generation)
    (register : SampleRegister) (follows : Follows start shape sheet [] session) :
    Agrees start shape [] Interpreter.register (.last sheet .short)
      (step generation register session) := by
  have none := Token.operand_nil follows.source
  have read : Token.read generation register session.source
      = .error .streamTruncated session.source := by
    cases generation with
    | first => exact bind_of_error (bind_of_error none)
    | second => exact bind_of_error none
  exact step_of_read_error .short read follows

/-- **Carrying out codes is interpreting them**, if there is fuel for one
turn more than there are bytes. -/
theorem run_interprets (accepts : Accepts start shape.rows) (generation : Generation)
    {fuel : Nat} {state : Interpreter} {raster : List UInt8} {session : Session Cursor κ}
    (follows : Follows start shape state.sheet raster session)
    (enough : raster.length < fuel) :
    Ends start shape (state.interpret shape generation raster)
      (run generation fuel state.register session) := by
  induction fuel generalizing state raster session with
  | zero => exact absurd enough (Nat.not_lt_zero _)
  | succ fuel ih =>
    unfold run
    rw [bind_of_ok session.assembler_eq]
    by_cases full : state.sheet.IsComplete shape
    · rw [if_pos (follows.holds.isComplete_iff.mpr full),
        Interpreter.interpret_of_isComplete full]
      exact ⟨session, follows.holds, .inr ⟨rfl, rfl⟩⟩
    rw [if_neg (fun yes => full (follows.holds.isComplete_iff.mp yes))]
    cases raster with
    | nil =>
      obtain ⟨session', failed, holds⟩ := step_nil generation state.register follows
      rw [Interpreter.interpret_nil full]
      exact ⟨session', holds, .inl (bind_of_error failed)⟩
    | cons control rest =>
      have agrees := step_agrees accepts generation follows
      rw [Interpreter.interpret_cons full]
      cases progress : state.step shape generation control rest with
      | next state' used =>
        rw [progress] at agrees
        dsimp only
        obtain ⟨session', done, follows'⟩ | ⟨session', failed, holds, full'⟩ := agrees
        · rw [bind_of_ok done]
          refine ih follows' ?_
          rw [List.length_cons] at enough
          rw [List.length_drop]
          omega
        · -- the next look finds that all rows are there
          rw [Interpreter.interpret_of_isComplete full']
          exact ⟨session', holds, .inl (bind_of_error failed)⟩
      | last sheet ending =>
        rw [progress] at agrees
        obtain ⟨session', failed, holds⟩ := agrees
        exact ⟨session', holds, .inl (bind_of_error failed)⟩

/-- **Decoding a compressed raster is interpreting it.** -/
theorem decode_interprets (accepts : Accepts start shape.rows) (generation : Generation)
    {raster : List UInt8} {session : Session Cursor κ}
    (follows : Follows start shape {} raster session) :
    Ends start shape (Interpreter.interpret shape generation {} raster)
      (decode generation session) := by
  have size : raster.length < ByteSource.size session.source + 1 := by
    rw [← follows.source, Cursor.length_rest]
    show session.source.bytes.size - session.source.position < session.source.bytes.size + 1
    omega
  have got : (get : SessionM Cursor κ (Session Cursor κ)) session = .ok session session := rfl
  unfold decode
  rw [bind_of_ok got]
  exact run_interprets accepts generation follows size

end RunLength

end WpgRaster
