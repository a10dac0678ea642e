import WpgRaster.Proofs.Frame.Congruence
import WpgRaster.Proofs.Frame.Setup
import WpgRaster.Proofs.Pixel.Image

/-!
# Decoding advances

Whatever a decoder does with its rows, it only ever hands over more of them
(`Advances`): there is no operation that takes a row back, also not when it
fails. All that is asked of the consumer is that a row which it refuses
leaves it as it was (`Steadfast`).

Most steps of a decoder do not know of the stop. They are *quiet*
(`Quiet`): they do the same whatever the stop would answer, and leave it
alone. The others are questions to the stop. So whatever is true of quiet
steps and of questions is true of decoding as a whole (`Session.Course`).
-/

namespace WpgRaster

/-- **A consumer that a refused row leaves as it was.** -/
def Steadfast (κ : Type) [RowConsumer κ] : Prop :=
  ∀ row bytes (before : κ) err after,
    RowConsumer.consume row bytes before = .error err after → after = before

variable {κ : Type} [RowConsumer κ] {start : κ}

/-- **Rows that advance**: behind the rows that were handed over, others
were, perhaps none, and the assembler counts them. -/
def Advances (start : κ) (state state' : RowState κ) : Prop :=
  ∀ rows, Handed start rows state.consumer → state.assembler.row = rows.length →
    ∃ more, Handed start (rows ++ more) state'.consumer
      ∧ state'.assembler.row = (rows ++ more).length

namespace Advances

variable {state mid last : RowState κ}

/-- Nothing happened to the consumer, and the assembler counts as before. -/
theorem of_same (consumer : mid.consumer = state.consumer)
    (row : mid.assembler.row = state.assembler.row) : Advances start state mid := by
  intro rows handed counted
  refine ⟨[], ?_, ?_⟩
  · rwa [List.append_nil, consumer]
  · rwa [List.append_nil, row]

theorem refl (state : RowState κ) : Advances start state state := of_same rfl rfl

theorem trans (first : Advances start state mid) (second : Advances start mid last) :
    Advances start state last := by
  intro rows handed counted
  obtain ⟨more, handed', counted'⟩ := first rows handed counted
  obtain ⟨others, handed'', counted''⟩ := second _ handed' counted'
  rw [List.append_assoc] at handed'' counted''
  exact ⟨more ++ others, handed'', counted''⟩

/-- The number of rows does not decrease. -/
theorem row_le (advances : Advances start state last) {rows : List Bytes}
    (handed : Handed start rows state.consumer) (counted : state.assembler.row = rows.length) :
    state.assembler.row ≤ last.assembler.row := by
  obtain ⟨more, -, counted'⟩ := advances rows handed counted
  rw [counted, counted', List.length_append]
  exact Nat.le_add_right _ _

end Advances

/-! ## Operations on rows -/

/-- **An operation that advances the rows**, whether or not it goes well. -/
def Moves {α : Type} (start : κ) (op : RowM κ α) : Prop :=
  ∀ state, Advances start state (behind (op state))

namespace Moves

variable {α β : Type}

theorem pure (a : α) : Moves start (Pure.pure a : RowM κ α) := fun state => .refl state

theorem bind {op : RowM κ α} {next : α → RowM κ β} (first : Moves start op)
    (second : ∀ a, Moves start (next a)) : Moves start (op >>= next) := by
  intro state
  have moved := first state
  cases run : op state with
  | ok a mid =>
    rw [run] at moved
    rw [bind_of_ok run]
    exact moved.trans (second a mid)
  | error err mid =>
    rw [run] at moved
    rw [bind_of_error run]
    exact moved

end Moves

namespace RowAssembler

variable (steadfast : Steadfast κ)

include steadfast

theorem commit_moves : Moves start (commit : RowM κ Unit) := by
  rintro ⟨asm, consumer⟩
  unfold commit
  dsimp only
  cases given : RowConsumer.consume asm.row asm.buffer.current consumer with
  | ok _ after =>
    intro rows handed counted
    refine ⟨[asm.buffer.current], handed.more ?_, ?_⟩
    · rwa [← counted]
    · rw [List.length_append, ← counted]
      rfl
  | error err after => exact .of_same (steadfast _ _ _ _ _ given) rfl

theorem append_moves (byte : UInt8) : Moves start (append byte : RowM κ Unit) := by
  rintro ⟨asm, consumer⟩
  have stored : Advances start ⟨asm, consumer⟩ ⟨asm.store byte, consumer⟩ := .of_same rfl rfl
  unfold append
  dsimp only
  split
  · exact .refl _
  · split
    · exact .refl _
    · split
      · exact stored.trans (commit_moves steadfast _)
      · exact stored

theorem appendAll_moves (bytes : List UInt8) :
    Moves start (appendAll bytes : RowM κ Unit) := by
  induction bytes with
  | nil => exact .pure ()
  | cons byte rest ih => exact (append_moves steadfast byte).bind fun _ => ih

theorem appendRepeated_moves (bytes : List UInt8) (count : Nat) :
    Moves start (appendRepeated bytes count : RowM κ Unit) := by
  induction count with
  | zero => exact .pure ()
  | succ count ih => exact (appendAll_moves steadfast bytes).bind fun _ => ih

theorem resubmit_moves (count : Nat) : Moves start (resubmit count : RowM κ Unit) := by
  induction count with
  | zero => exact .pure ()
  | succ count ih =>
    rintro ⟨asm, consumer⟩
    unfold resubmit
    dsimp only
    split
    · exact .refl _
    · have repeated : Advances start ⟨asm, consumer⟩
          ⟨{ asm with buffer := asm.buffer.repeatPrevious }, consumer⟩ := .of_same rfl rfl
      exact repeated.trans ((commit_moves steadfast).bind (fun _ => ih) _)

theorem repeatRow_moves (count : Nat) : Moves start (repeatRow count : RowM κ Unit) := by
  rintro ⟨asm, consumer⟩
  unfold repeatRow
  dsimp only
  split
  · exact resubmit_moves steadfast count _
  · exact .refl _

theorem fillRows_moves (count : Nat) : Moves start (fillRows count : RowM κ Unit) := by
  induction count with
  | zero => exact .pure ()
  | succ count ih =>
    rintro ⟨asm, consumer⟩
    have zeroed : Advances start ⟨asm, consumer⟩
        ⟨{ asm with buffer := asm.buffer.zeroFrom asm.column }, consumer⟩ := .of_same rfl rfl
    exact zeroed.trans ((commit_moves steadfast).bind (fun _ => ih) _)

theorem fillRemaining_moves : Moves start (fillRemaining : RowM κ Nat) := by
  intro state
  show Advances start state (behind ((fillRows (state.assembler.rows - state.assembler.row) >>=
    fun _ => pure (state.assembler.rows - state.assembler.row)) state))
  exact (fillRows_moves steadfast _).bind (fun _ => .pure _) state

end RowAssembler

/-! ## Quiet steps -/

theorem exists_conclude {ε σ α : Type} (result : EStateM.Result ε σ α) :
    ∃ outcome, result = conclude outcome (behind result) := by
  cases result with
  | ok a _ => exact ⟨.ok a, rfl⟩
  | error err _ => exact ⟨.error err, rfl⟩

/-- **A quiet step** advances the rows and does not know of the stop. -/
def Quiet {σ α : Type} (start : κ) (step : SessionM σ κ α) : Prop :=
  ∀ source rows, ∃ outcome source' rows', Advances start rows rows'
    ∧ ∀ stop, step ⟨source, rows, stop⟩ = conclude outcome ⟨source', rows', stop⟩

namespace Quiet

variable {σ α β : Type}

theorem pure (a : α) : Quiet start (Pure.pure a : SessionM σ κ α) :=
  fun source rows => ⟨.ok a, source, rows, .refl rows, fun _ => rfl⟩

theorem throw (err : RasterError) : Quiet start (MonadExcept.throw err : SessionM σ κ α) :=
  fun source rows => ⟨.error err, source, rows, .refl rows, fun _ => rfl⟩

theorem onSource (step : EStateM RasterError σ α) :
    Quiet start (Session.onSource step : SessionM σ κ α) := by
  intro source rows
  cases run : step source with
  | ok a source' =>
    refine ⟨.ok a, source', rows, .refl rows, fun stop => ?_⟩
    simp only [Session.onSource_eq, run, conclude]
  | error err source' =>
    refine ⟨.error err, source', rows, .refl rows, fun stop => ?_⟩
    simp only [Session.onSource_eq, run, conclude]

theorem onRows {op : RowM κ α} (moves : Moves start op) :
    Quiet start (Session.onRows op : SessionM σ κ α) := by
  intro source rows
  have moved := moves rows
  cases run : op rows with
  | ok a rows' =>
    rw [run] at moved
    refine ⟨.ok a, source, rows', moved, fun stop => ?_⟩
    simp only [Session.onRows_eq, run, conclude]
  | error err rows' =>
    rw [run] at moved
    refine ⟨.error err, source, rows', moved, fun stop => ?_⟩
    simp only [Session.onRows_eq, run, conclude]

theorem bind {step : SessionM σ κ α} {next : α → SessionM σ κ β} (first : Quiet start step)
    (second : ∀ a, Quiet start (next a)) : Quiet start (step >>= next) := by
  intro source rows
  obtain ⟨outcome, mid, rows', moved, run⟩ := first source rows
  cases outcome with
  | ok a =>
    obtain ⟨outcome', last, rows'', moved', run'⟩ := second a mid rows'
    refine ⟨outcome', last, rows'', moved.trans moved', fun stop => ?_⟩
    rw [bind_of_ok (run stop), run' stop]
  | error err =>
    exact ⟨.error err, mid, rows', moved, fun stop => bind_of_error (run stop)⟩

end Quiet

namespace RunLength

variable {σ : Type} [ByteSource σ] (steadfast : Steadfast κ)

include steadfast

theorem copy_quiet (count : Nat) : Quiet start (copy count : SessionM σ κ Unit) := by
  induction count with
  | zero => exact .pure ()
  | succ count ih =>
    refine (Quiet.onSource _).bind fun byte => ?_
    exact (Quiet.onRows (RowAssembler.append_moves steadfast byte)).bind fun _ => ih

/-- **Carrying out a token is quiet.** -/
theorem perform_quiet (token : Token) (reg : SampleRegister) :
    Quiet start (perform token reg : SessionM σ κ SampleRegister) := by
  have repeated : ∀ bytes count, Quiet start
      (Session.onRows (RowAssembler.appendRepeated bytes count) : SessionM σ κ Unit) :=
    fun bytes count => .onRows (RowAssembler.appendRepeated_moves steadfast bytes count)
  unfold perform
  cases token with
  | copy count => exact (copy_quiet steadfast count).bind fun _ => .pure reg
  | fill value count => exact (repeated [value] count).bind fun _ => .pure reg
  | repeatSample count => exact (repeated reg.sample count).bind fun _ => .pure reg
  | repeatRow count =>
    exact (Quiet.onRows (RowAssembler.repeatRow_moves steadfast count)).bind fun _ => .pure reg
  | setSampleSize size => exact .pure _
  | toggleDelta =>
    refine (Quiet.onRows ?_).bind fun _ => .pure reg
    exact fun state => .of_same rfl rfl

end RunLength

namespace FrameFormat

/-- Bringing a frame to its end is quiet. -/
theorem endRows_quiet {σ : Type} (steadfast : Steadfast κ) (rowsDecoded : Nat)
    (outcome : Except RasterError Unit) :
    Quiet start (endRows rowsDecoded outcome : SessionM σ κ Outcome) :=
  endRows_related (fun (step _ : SessionM σ κ Outcome) => Quiet start step) .pure .throw
    (fun last => (Quiet.onRows (RowAssembler.fillRemaining_moves steadfast)).bind fun _ => last)
    rowsDecoded outcome

end FrameFormat

/-! ## All of decoding -/

/-- **A step that keeps to a relation** between the session before and the
one behind it. -/
def Session.KeepsTo {σ α : Type} (rel : Session σ κ → Session σ κ → Prop) (step : SessionM σ κ α) :
    Prop :=
  ∀ session, rel session (behind (step session))

/-- **A course**: a relation that quiet steps and questions to the stop keep
to. -/
structure Session.Course {σ : Type} (start : κ) (rel : Session σ κ → Session σ κ → Prop) :
    Prop where
  /-- One step after another. -/
  trans : ∀ {session mid last}, rel session mid → rel mid last → rel session last
  /-- A quiet step. -/
  quiet : ∀ {source source' rows rows' stop}, Advances start rows rows' →
    rel ⟨source, rows, stop⟩ ⟨source', rows', stop⟩
  /-- A question. -/
  asked : ∀ {source rows} (stop : Stop),
    rel ⟨source, rows, stop⟩ ⟨source, rows, { stop with checks := stop.checks + 1 }⟩

namespace Session.Course

variable {σ α β : Type} {rel : Session σ κ → Session σ κ → Prop} (course : Course start rel)

include course

theorem of_quiet {step : SessionM σ κ α} (quiet : Quiet start step) : KeepsTo rel step := by
  rintro ⟨source, rows, stop⟩
  obtain ⟨outcome, source', rows', moved, run⟩ := quiet source rows
  rw [run stop]
  cases outcome with
  | ok a => exact course.quiet moved
  | error err => exact course.quiet moved

theorem checkStop : KeepsTo rel (Session.checkStop : SessionM σ κ Unit) := by
  rintro ⟨source, rows, stop⟩
  rw [Session.checkStop_eq]
  unfold Stop.check
  cases stop.answer stop.checks with
  | none => exact course.asked stop
  | some reason => exact course.asked stop

theorem assembler : KeepsTo rel (Session.assembler : SessionM σ κ RowAssembler) :=
  fun ⟨_, rows, _⟩ => course.quiet (.refl rows)

theorem bind {step : SessionM σ κ α} {next : α → SessionM σ κ β} (first : KeepsTo rel step)
    (second : ∀ a, KeepsTo rel (next a)) : KeepsTo rel (step >>= next) := by
  intro session
  have moved := first session
  cases run : step session with
  | ok a mid =>
    rw [run] at moved
    rw [bind_of_ok run]
    exact course.trans moved (second a mid)
  | error err mid =>
    rw [run] at moved
    rw [bind_of_error run]
    exact moved

variable [ByteSource σ] (steadfast : Steadfast κ)

include steadfast

/-- **To keep to a course is a congruence**, of which only one side is looked at. -/
theorem congruence :
    Congruence fun ⦃_⦄ (step : SessionM σ κ _) (_ : SessionM σ κ _) => KeepsTo rel step where
  pure a := course.of_quiet (.pure a)
  throw err := course.of_quiet (.throw err)
  bind first second := course.bind first second
  nextByte := course.of_quiet (.onSource _)
  append byte := course.of_quiet (.onRows (RowAssembler.append_moves steadfast byte))
  appendRepeated bytes count :=
    course.of_quiet (.onRows (RowAssembler.appendRepeated_moves steadfast bytes count))
  repeatRow count := course.of_quiet (.onRows (RowAssembler.repeatRow_moves steadfast count))
  toggleDelta := course.of_quiet (.onRows fun _ => .of_same rfl rfl)
  checkStop := course.checkStop
  assembler := course.assembler
  nextRow _ := course.of_quiet (.onSource _)
  appendAll bytes := course.of_quiet (.onRows (RowAssembler.appendAll_moves steadfast bytes))
  sized _ _ kept session := kept (ByteSource.size session.source) session

theorem run (generation : Generation) (fuel : Nat) (reg : SampleRegister) :
    KeepsTo rel (RunLength.run generation fuel reg : SessionM σ κ Unit) :=
  (course.congruence steadfast).run generation fuel reg

theorem decodePacked (width count : Nat) :
    KeepsTo rel (FrameFormat.decodePacked width count : SessionM σ κ Unit) :=
  (course.congruence steadfast).decodePacked width count

theorem decodeRows (compression : Compression) :
    KeepsTo rel (FrameFormat.decodeRows compression : SessionM σ κ Unit) :=
  (course.congruence steadfast).decodeRows compression

/-- Bringing a frame to its end keeps to the course. -/
theorem endRows (compression : Compression) (session : Session σ κ) :
    rel (behind (FrameFormat.decodeRows compression session))
      (behind (FrameFormat.decodeSession compression session)) := by
  obtain ⟨outcome, ran⟩ := exists_conclude (FrameFormat.decodeRows compression session)
  rw [FrameFormat.decodeSession_eq ran]
  exact course.of_quiet (FrameFormat.endRows_quiet steadfast _ outcome) _

/-- **A frame keeps to every course.** -/
theorem decodeSession (compression : Compression) :
    KeepsTo rel (FrameFormat.decodeSession compression : SessionM σ κ Outcome) := fun session =>
  course.trans (course.decodeRows steadfast compression session)
    (course.endRows steadfast compression session)

theorem checkedSession (compression : Compression) :
    KeepsTo rel (FrameFormat.checkedSession compression : SessionM σ κ Outcome) :=
  course.bind course.checkStop fun _ => course.decodeSession steadfast compression

end Session.Course

/-- Rows only advance. -/
theorem Session.Course.rows {σ : Type} (start : κ) :
    Course start fun session session' : Session σ κ =>
      Advances start session.rows session'.rows where
  trans := .trans
  quiet := id
  asked _ := .refl _

/-- What the stop would answer does not change. -/
theorem Session.Course.answer {σ : Type} (start : κ) :
    Course start fun session session' : Session σ κ =>
      session'.stop.answer = session.stop.answer where
  trans first second := second.trans first
  quiet _ := rfl
  asked _ := rfl

/-- An image is steadfast. -/
theorem Unpacker.steadfast : Steadfast (Unpacker PixelBuffer) :=
  fun _ _ _ _ _ refused => consume_error refused

/-- **Decoding a frame does not change what the stop would answer.** -/
theorem FrameFormat.answer_decode {σ : Type} [ByteSource σ] (format : FrameFormat) (source : σ)
    (image : PixelBuffer) (stop : Stop) :
    (format.decode source image stop).stop.answer = stop.answer := by
  cases ready : format.setUp image with
  | error err => rw [decode_of_error ready]
  | ok rows =>
    have course : Session.Course rows.consumer fun session session' : Session σ _ =>
      session'.stop.answer = session.stop.answer := .answer _
    have kept := course.checkedSession Unpacker.steadfast format.compression ⟨source, rows, stop⟩
    rw [decode_of_ok ready]
    generalize (checkedSession format.compression : SessionM σ (Unpacker PixelBuffer) Outcome) _
      = result at kept ⊢
    cases result with
    | ok outcome session => exact kept
    | error err session => exact kept

/-- **What a frame leaves in its image are rows that its unpacker was handed.** -/
theorem FrameFormat.handed_decode {σ : Type} [ByteSource σ] {format : FrameFormat}
    {image : PixelBuffer} {rows : RowState (Unpacker PixelBuffer)}
    (ready : format.setUp image = .ok rows) (source : σ) (stop : Stop) :
    ∃ painted unpacker, Handed rows.consumer painted unpacker
      ∧ (format.decode source image stop).sink = unpacker.sink := by
  have row : rows.assembler.row = 0 := ((format.setUp_yields image).of_ok ready).holds.row
  have course : Session.Course rows.consumer fun session session' : Session σ _ =>
    Advances rows.consumer session.rows session'.rows := .rows _
  obtain ⟨painted, handed, -⟩ :=
    course.checkedSession Unpacker.steadfast format.compression ⟨source, rows, stop⟩ [] .none row
  refine ⟨painted, _, handed, ?_⟩
  rw [decode_of_ok ready]
  cases (checkedSession format.compression : SessionM σ (Unpacker PixelBuffer) Outcome) _ with
  | ok outcome session => rfl
  | error err session => rfl

/-- **Decoding a frame keeps the measures of its image.** -/
theorem FrameFormat.decode_measures {σ : Type} [ByteSource σ] (format : FrameFormat) (source : σ)
    (image : PixelBuffer) (stop : Stop) :
    let decoded := format.decode source image stop
    decoded.sink.width = image.width ∧ decoded.sink.height = image.height
      ∧ decoded.sink.colorSpace = image.colorSpace := by
  cases ready : format.setUp image with
  | error err =>
    rw [decode_of_error ready]
    exact ⟨rfl, rfl, rfl⟩
  | ok rows =>
    have setUp := (format.setUp_yields image).of_ok ready
    obtain ⟨painted, unpacker, handed, left⟩ := handed_decode ready source stop
    have measures := Unpacker.measures_of_handed handed
    rw [setUp.fits.sink_eq, ← left] at measures
    exact measures

end WpgRaster
