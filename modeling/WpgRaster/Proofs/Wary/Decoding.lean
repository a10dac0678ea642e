import WpgRaster.Proofs.Frame.Cancellation
import WpgRaster.Proofs.Frame.Safety
import WpgRaster.Proofs.Wary.Assembly
import WpgRaster.Proofs.Wary.Rows
import WpgRaster.Proofs.Wary.Tokens
import WpgRaster.Source.Handle

/-!
# Frames that are decoded warily

A frame is decoded once more, by a decoder that looks before it touches anything
(`FrameFormat.decodeWarily`), and that ends without a result if something is out of its reach. It
looks

* whether a packed row has as many bytes as the bits of its pixels require, which is a matter of
  exact numbers, and whether every packed row that it hands to the unpacker has just as many;
* whether a sample is in its row, whether interleaved samples use up the row and never run out of
  bytes, whether a palette that is asked for a colour has one, whether the row of the image is in
  the image and has room for what is written (`Unpacker.consumeWarily`);
* whether a byte is stored, or looked for, in the rows that an assembler keeps (`Wary.append`);
* whether the register of samples has one byte to eight, and a token asks for no more than can be
  counted (`Wary.step`);
* whether a read has brought no more bytes than were asked for (`Wary.decodePacked`);
* and whether a word holds every sum and every product on the way.

For every format, every image and every source the wary decoder comes to the same end as the one
that does not look (`FrameFormat.decodeWarily_eq`). So all of it is in reach, always.
-/

namespace WpgRaster

namespace Wary

/-! ## Decoding -/

section

variable {σ κ : Type} [ByteSource σ] (consume : Nat → Bytes → Wary RasterError κ Unit)

/-- Appends the next `count` bytes of the source as they are. -/
def copy : (count : Nat) → Wary RasterError (Session σ κ) Unit
  | 0 => pure ()
  | count + 1 => do
    let byte ← lift (Session.onSource Token.nextByte)
    onRows (append consume byte)
    copy count

/-- Carries a token out and answers the sample register behind it. -/
def perform (token : Token) (reg : SampleRegister) :
    Wary RasterError (Session σ κ) SampleRegister := do
  match token with
  | .copy count => copy consume count
  | .fill value count => onRows (appendRepeated consume [value] count)
  | .repeatSample count => onRows (appendRepeated consume reg.sample count)
  | .repeatRow count => onRows (repeatRow consume count)
  | .setSampleSize size => return { reg with size }
  | .toggleDelta => lift (Session.onRows fun ⟨asm, consumer⟩ => .ok () ⟨asm.toggleDelta, consumer⟩)
  return reg

/-- Reads and carries out one token. The register has to be in reach for a sample that is read into
it, and for one that is repeated from it. -/
def step (generation : Generation) (reg : SampleRegister) :
    Wary RasterError (Session σ κ) SampleRegister := do
  require reg.InReach
  let before := (← lift Session.assembler).row
  let (token, reg) ← lift (Session.onSource (Token.read generation reg))
  require (token.InReach ∧ reg.InReach)
  let reg ← perform consume token reg
  if (← lift Session.assembler).row ≠ before then lift Session.checkStop
  return reg

/-- Carries out tokens until all rows are there, but at most `fuel`. -/
def run (generation : Generation) :
    (fuel : Nat) → SampleRegister → Wary RasterError (Session σ κ) Unit
  | 0, _ => throw (some .streamTruncated)
  | fuel + 1, reg => do
    if (← lift Session.assembler).isComplete then return
    let reg ← step consume generation reg
    run generation fuel reg

/-- Reads `count` packed rows. None of the reads may bring too many bytes. -/
def decodePacked (width : Nat) : (count : Nat) → Wary RasterError (Session σ κ) Unit
  | 0 => pure ()
  | count + 1 => do
    let bytes ← lift (Session.onSource (FrameFormat.nextRow width))
    require (bytes.size ≤ width)
    onRows (appendAll consume bytes.toList)
    if bytes.size < width then throw (some .streamTruncated)
    lift Session.checkStop
    decodePacked width count

/-- Reads all rows of a frame. -/
def decodeRows (compression : Compression) : Wary RasterError (Session σ κ) Unit := do
  match compression with
  | .none =>
    let asm ← lift Session.assembler
    decodePacked consume asm.width (asm.rows - asm.row)
  | .first => run consume .first (ByteSource.size (← get).source + 1) {}
  | .second => run consume .second (ByteSource.size (← get).source + 1) {}

/-- Reads all rows of a frame and brings it to an end. -/
def decodeSession (compression : Compression) : Wary RasterError (Session σ κ) Outcome :=
  fun session =>
    match decodeRows consume compression session with
    | .ok () session => .ok .complete session
    | .error (some .rowsExhausted) session => .ok .complete session
    | .error (some .streamTruncated) session =>
      (do
        let rowsDecoded := (← lift Session.assembler).row
        let _ ← onRows (fillRemaining consume)
        return .truncated rowsDecoded : Wary RasterError (Session σ κ) Outcome) session
    | .error (some err) session =>
      if err.abortsFrame then
        (do
          let _ ← onRows (fillRemaining consume)
          throw (some err) : Wary RasterError (Session σ κ) Outcome) session
      else .error (some err) session
    | .error none session => .error none session

end

end Wary

/-- Reads a frame that is set up, with rows of a width. They have to have as many bytes as the bits
of a row require, no byte less and no byte more. -/
def FrameFormat.warySession {σ : Type} [ByteSource σ] (format : FrameFormat) (width : Nat) :
    Wary RasterError (Session σ (Unpacker PixelBuffer)) Outcome := do
  let bits := format.bitsPerPixel * format.columns
  Wary.require (bits + 7 < Size.limit ∧ width = (bits + 7) / 8)
  Wary.lift Session.checkStop
  Wary.decodeSession (Unpacker.consumeWarily ((bits + 7) / 8)) format.compression

/-- **Decodes a frame warily**: without a result if something is out of reach. -/
def FrameFormat.decodeWarily {σ : Type} [ByteSource σ] (format : FrameFormat) (source : σ)
    (image : PixelBuffer) (stop : Stop) : Option (Decoded σ PixelBuffer) :=
  match format.setUp image with
  | .error err => some { result := .error err, source, sink := image, stop, clamped := 0 }
  | .ok rows =>
    match format.warySession rows.assembler.width { source, rows, stop } with
    | .ok outcome session => some (decode.finish (.ok outcome) session)
    | .error (some err) session => some (decode.finish (.error err) session)
    | .error none _ => none

/-! ## Sources that deliver no more than they are asked for -/

/-- A file handle delivers no more than it is asked for. -/
theorem FileHandle.readsWithin : ReadsWithin FileHandle := by
  intro limit handle bytes handle' taken
  cases taken
  rw [Cursor.size_peek]
  exact Nat.min_le_left _ _

/-- Nor does a handle that reads ahead. -/
theorem BufferedHandle.readsWithin : ReadsWithin BufferedHandle := by
  intro limit handle bytes handle' taken
  have few : (handle.read limit).1.size ≤ limit := by
    unfold BufferedHandle.read
    split
    · exact (Cursor.size_peek _ _).trans_le (Nat.min_le_left _ _)
    · exact Array.size_extract.trans_le (Nat.min_le_left _ _)
  cases taken
  exact few

/-! ## Agreement -/

/-- What a question to the stop did that was let pass. -/
theorem Session.checkStop_ok {σ κ : Type} {session mid : Session σ κ}
    (ran : checkStop session = .ok () mid) : ∃ stop, mid = { session with stop } := by
  rw [checkStop_eq] at ran
  split at ran
  · cases ran
    exact ⟨_, rfl⟩
  · cases ran

/-- A step that went well left a sheet behind. -/
theorem Keeps.holds_of_ok {σ κ α : Type} [RowConsumer κ] {start : κ} {shape : Shape} {asked : Nat}
    {post : α → Sheet → Prop} {result : EStateM.Result RasterError (Session σ κ) α}
    (keeps : Keeps start shape asked post result) {a : α} {session : Session σ κ}
    (ran : result = .ok a session) : ∃ sheet, Holds start shape sheet session.rows := by
  rw [ran] at keeps
  obtain ⟨sheet, underway, -⟩ := keeps
  exact ⟨sheet, underway.holds⟩

namespace Wary

section

variable {σ κ : Type} [ByteSource σ] {consume : Nat → Bytes → Wary RasterError κ Unit}
  {compression : Compression} {session mid : Session σ κ}

/-- The source ended before all rows were read. -/
theorem decodeSession_of_streamTruncated
    (rows : decodeRows consume compression session = .error (some .streamTruncated) mid) :
    decodeSession consume compression session
      = (do
          let _ ← onRows (fillRemaining consume)
          return .truncated mid.rows.assembler.row : Wary RasterError (Session σ κ) Outcome)
          mid := by
  unfold decodeSession
  rw [rows]
  exact bind_of_ok (lift_of_ok mid.assembler_eq)

/-- Any other error. -/
theorem decodeSession_of_error {err : RasterError}
    (rows : decodeRows consume compression session = .error (some err) mid)
    (more : err ≠ .rowsExhausted) (early : err ≠ .streamTruncated) :
    decodeSession consume compression session
      = if err.abortsFrame then
          (do
            let _ ← onRows (fillRemaining consume)
            throw (some err) : Wary RasterError (Session σ κ) Outcome) mid
        else .error (some err) mid := by
  unfold decodeSession
  rw [rows]
  split
  · next same => cases same
  · next same => exact absurd (Option.some.inj (EStateM.Result.error.inj same).1) more
  · next same => exact absurd (Option.some.inj (EStateM.Result.error.inj same).1) early
  · next same =>
    cases same
    rfl
  · next same => cases same

end

variable {σ κ : Type} [ByteSource σ] [RowConsumer κ]
  {consume : Nat → Bytes → Wary RasterError κ Unit} {start : κ} {shape : Shape} {sheet : Sheet}
  {session : Session σ κ}

theorem Agrees.get {ε σ : Type} (s : σ) :
    Agrees MonadState.get (MonadState.get : EStateM ε σ σ) s := rfl

namespace Copes

/-- Bytes are copied. -/
theorem copy_agrees (copes : Copes consume start shape)
    (holds : Holds start shape sheet session.rows) (count : Nat) :
    Agrees (copy consume count) (RunLength.copy count) session := by
  induction count generalizing sheet session with
  | zero => rfl
  | succ count ih =>
    refine (Agrees.lift _ session).bind fun byte mid ran => ?_
    obtain ⟨source, -, rfl⟩ := Session.onSource_ok ran
    refine .bind (.onRows (copes.append_agrees holds byte)) fun _ mid ran => ?_
    obtain ⟨rows, appended, rfl⟩ := Session.onRows_ok ran
    exact ih ((holds.append_lands byte).holds_of_ok appended)

/-- **A token is carried out.** -/
theorem perform_agrees (copes : Copes consume start shape)
    (holds : Holds start shape sheet session.rows) (token : Token) (reg : SampleRegister) :
    Agrees (perform consume token reg) (RunLength.perform token reg) session := by
  cases token with
  | copy count => exact (copes.copy_agrees holds count).bind fun _ mid _ => .pure reg mid
  | fill value count =>
    exact (Agrees.onRows (copes.appendRepeated_agrees holds [value] count)).bind
      fun _ mid _ => .pure reg mid
  | repeatSample count =>
    exact (Agrees.onRows (copes.appendRepeated_agrees holds reg.sample count)).bind
      fun _ mid _ => .pure reg mid
  | repeatRow count =>
    exact (Agrees.onRows (copes.repeatRow_agrees holds count)).bind fun _ mid _ => .pure reg mid
  | setSampleSize size => exact .pure _ session
  | toggleDelta => exact (Agrees.lift _ session).bind fun _ mid _ => .pure reg mid

omit [ByteSource σ] [RowConsumer κ] in
/-- What is read from a source does not depend on the rows. -/
theorem onSource_answers {α : Type} {post : α → Prop} {step : EStateM RasterError σ α}
    (answers : Answers post step) :
    Answers post (Session.onSource step : SessionM σ κ α) := by
  intro session a mid ran
  obtain ⟨source, read, -⟩ := Session.onSource_ok ran
  exact answers _ a source read

/-- The register behind a token is in reach. -/
theorem perform_answers {token : Token} {reg : SampleRegister} (known : token.InReach)
    (reach : reg.InReach) :
    Answers SampleRegister.InReach
      (RunLength.perform token reg : SessionM σ κ SampleRegister) := by
  have last : ∀ action : SessionM σ κ Unit, Answers SampleRegister.InReach
      (do action; pure reg : SessionM σ κ SampleRegister) := fun action =>
    (Answers.any action).bind fun _ _ => .pure reach
  cases token with
  | copy count => exact last _
  | fill value count => exact last _
  | repeatSample count => exact last _
  | repeatRow count => exact last _
  | setSampleSize size => exact .pure ⟨known, reach.2⟩
  | toggleDelta => exact last _

/-- So is the register behind a token that is read and carried out. -/
theorem step_answers (generation : Generation) {reg : SampleRegister} (reach : reg.InReach) :
    Answers SampleRegister.InReach
      (RunLength.step generation reg : SessionM σ κ SampleRegister) := by
  unfold RunLength.step
  refine (Answers.any _).bind fun _ _ => ?_
  refine (onSource_answers (Token.read_answers generation reach)).bind fun read known => ?_
  obtain ⟨token, reg⟩ := read
  refine (perform_answers known.1 known.2).bind fun reg reach => ?_
  refine (Answers.any _).bind fun _ _ => ?_
  split
  · exact (Answers.any _).bind fun _ _ => .pure reach
  · exact .pure reach

/-- **A token is read and carried out.** -/
theorem step_agrees (copes : Copes consume start shape)
    (holds : Holds start shape sheet session.rows) (generation : Generation)
    {reg : SampleRegister} (reach : reg.InReach) :
    Agrees (step consume generation reg) (RunLength.step generation reg) session := by
  unfold step RunLength.step
  refine .require_bind reach (.bind (.lift _ session) fun asm mid ran => ?_)
  cases ran
  refine .bind (.lift _ session) fun read mid ran => ?_
  obtain ⟨source, answered, rfl⟩ := Session.onSource_ok ran
  have known := Token.read_answers generation reach _ _ _ answered
  have holds : Holds start shape sheet ({ session with source } : Session σ κ).rows := holds
  obtain ⟨token, reg⟩ := read
  refine .require_bind known ?_
  refine .bind (copes.perform_agrees holds token reg) fun reg mid _ => ?_
  refine .bind (.lift _ mid) fun asm mid _ => ?_
  refine .ite (fun _ => ?_) fun _ => .pure reg mid
  exact .bind (.lift _ mid) fun _ mid _ => .pure reg mid

/-- **Tokens are carried out until all rows are there.** -/
theorem run_agrees (copes : Copes consume start shape)
    (holds : Holds start shape sheet session.rows) (generation : Generation) (fuel : Nat)
    {reg : SampleRegister} (reach : reg.InReach) :
    Agrees (run consume generation fuel reg) (RunLength.run generation fuel reg) session := by
  induction fuel generalizing sheet session reg with
  | zero => exact .throw _ session
  | succ fuel ih =>
    unfold run RunLength.run
    refine .bind (.lift _ session) fun asm mid ran => ?_
    cases ran
    refine .ite (fun _ => .pure () session) fun more => ?_
    have short : ¬ sheet.IsComplete shape := fun full => more (holds.isComplete_iff.mpr full)
    refine .bind (copes.step_agrees holds generation reach) fun behind mid ran => ?_
    -- the rest starts from the sheet and the register that this step leaves behind
    have keeps := RunLength.step_keeps ⟨holds, Nat.zero_le _⟩ short generation reg
    obtain ⟨sheet, holds⟩ := keeps.holds_of_ok ran
    exact ih holds (step_answers generation reach _ _ _ ran)

/-- **Packed rows are read**, from a source that brings no more than it is asked for. -/
theorem decodePacked_agrees (copes : Copes consume start shape) (within : ReadsWithin σ)
    (holds : Holds start shape sheet session.rows) (count : Nat) :
    Agrees (decodePacked consume shape.width count)
      (FrameFormat.decodePacked shape.width count) session := by
  induction count generalizing sheet session with
  | zero => rfl
  | succ count ih =>
    unfold decodePacked FrameFormat.decodePacked
    refine .bind (.lift _ session) fun bytes mid ran => ?_
    obtain ⟨source, read, rfl⟩ := Session.onSource_ok ran
    refine .require_bind (FrameFormat.size_nextRow within read) ?_
    refine .bind (.onRows (copes.appendAll_agrees holds bytes.toList)) fun _ mid ran => ?_
    obtain ⟨rows, appended, rfl⟩ := Session.onRows_ok ran
    have holds := (holds.appendAll_lands bytes.toList).holds_of_ok appended
    refine .ite (fun _ => rfl) fun _ => .bind (.lift _ _) fun _ mid ran => ?_
    obtain ⟨stop, rfl⟩ := Session.checkStop_ok ran
    exact ih holds

/-- **The rows of a frame are read.** -/
theorem decodeRows_agrees (copes : Copes consume start shape) (within : ReadsWithin σ)
    (holds : Holds start shape {} session.rows) (compression : Compression) :
    Agrees (decodeRows consume compression) (FrameFormat.decodeRows compression) session := by
  have width : session.rows.assembler.width = shape.width := congrArg Shape.width holds.shape_eq
  have run : ∀ generation fuel,
      Agrees (run consume generation fuel {}) (RunLength.run generation fuel {}) session :=
    fun generation fuel => copes.run_agrees holds generation fuel SampleRegister.inReach_empty
  cases compression with
  | none =>
    refine .bind (.lift _ session) fun asm mid ran => ?_
    cases ran
    rw [width]
    exact copes.decodePacked_agrees within holds _
  | first =>
    refine .bind (.get session) fun state mid ran => ?_
    cases ran
    exact run .first _
  | second =>
    refine .bind (.get session) fun state mid ran => ?_
    cases ran
    exact run .second _

/-- **A frame is brought to its end**, if the consumer accepts all rows. -/
theorem decodeSession_agrees (copes : Copes consume start shape) (within : ReadsWithin σ)
    (accepts : Accepts start shape.rows) (holds : Holds start shape {} session.rows)
    (compression : Compression) :
    Agrees (decodeSession consume compression) (FrameFormat.decodeSession compression)
      session := by
  have agrees := copes.decodeRows_agrees within holds compression
  have keeps := FrameFormat.decodeRows_keeps ⟨holds, Nat.zero_le _⟩ compression
  cases rows : FrameFormat.decodeRows compression session with
  | ok _ mid =>
    refine .of_eq_ok (FrameFormat.decodeSession_of_ok rows) ?_
    unfold decodeSession
    rw [agrees.of_ok rows]
  | error err mid =>
    have failed := agrees.of_error rows
    rw [rows] at keeps
    -- no row was refused, so there still is a sheet, and it may be filled up with zeros
    obtain ⟨sheet, held, -⟩ | refused := keeps
    · by_cases more : err = .rowsExhausted
      · subst more
        refine .of_eq_ok (FrameFormat.decodeSession_of_rowsExhausted rows) ?_
        unfold decodeSession
        rw [failed]
      by_cases early : err = .streamTruncated
      · subst early
        refine .of_eq (decodeSession_of_streamTruncated failed)
          (FrameFormat.decodeSession_of_streamTruncated rows) ?_
        exact .bind (.onRows (copes.fillRemaining_agrees held)) fun _ after _ => .pure _ after
      have wary_eq := decodeSession_of_error failed more early
      have step_eq := FrameFormat.decodeSession_of_error rows more early
      by_cases aborts : err.abortsFrame = true
      · rw [if_pos aborts] at wary_eq step_eq
        refine .of_eq wary_eq step_eq ?_
        exact .bind (.onRows (copes.fillRemaining_agrees held)) fun _ after _ => .throw err after
      · rw [if_neg aborts] at wary_eq step_eq
        exact .of_eq_error step_eq wary_eq
    · exact absurd refused accepts.not_refused

end Copes

end Wary

/-- **An unpacker that is equipped for an image copes with its rows.** -/
theorem Unpacker.Equipped.copes {width columns : Nat} {layout : Layout} {palette : Option Palette}
    {components : List Component} {start : Unpacker PixelBuffer} {shape : Shape}
    (equipped : start.Equipped width columns layout palette components)
    (fresh : start.clamped = 0) (wide : shape.width = width)
    (high : shape.rows = start.sink.height) :
    Wary.Copes (consumeWarily width) start shape := by
  have word := equipped.word
  have width_eq := equipped.width_eq
  have samples : 0 < start.sink.width * start.sink.colorSpace.components := by
    rw [equipped.columns_eq, equipped.space]
    exact Nat.mul_pos equipped.wide equipped.arranged.supports.components_pos
  have rows : start.sink.height
      ≤ start.sink.width * start.sink.colorSpace.components * start.sink.height :=
    Nat.le_mul_of_pos_left _ samples
  rw [Nat.mul_right_comm, ← equipped.whole.size] at rows
  exact
    { agrees := fun handed few long =>
        equipped.consume_agrees fresh handed (high ▸ few) (long.trans wide)
      width := by omega
      rows := high ▸ Nat.lt_of_le_of_lt rows equipped.whole.word }

namespace FrameFormat

variable {σ : Type} [ByteSource σ]

/-- **Decoding leaves an image whole**, so that it may be decoded into once more. -/
theorem whole_sink_decode {image : PixelBuffer} (whole : image.Whole) (format : FrameFormat)
    (source : σ) (stop : Stop) : (format.decode source image stop).sink.Whole := by
  cases ready : format.setUp image with
  | error err =>
    rw [decode_of_error ready]
    exact whole
  | ok rows =>
    obtain ⟨layout, palette, components, equipped⟩ := equipped_of_setUp whole ready
    obtain ⟨painted, unpacker, handed, left⟩ := handed_decode ready source stop
    rw [left]
    exact (equipped.of_handed handed).whole

/-- The session of a frame that is set up for a whole image has nothing out of its reach. -/
theorem session_agrees (within : ReadsWithin σ) {image : PixelBuffer} (whole : image.Whole)
    {format : FrameFormat} {rows : RowState (Unpacker PixelBuffer)}
    (ready : format.setUp image = .ok rows) (source : σ) (stop : Stop) :
    Wary.Agrees (format.warySession rows.assembler.width) (checkedSession format.compression)
      ⟨source, rows, stop⟩ := by
  have setUp := (format.setUp_yields image).of_ok ready
  obtain ⟨layout, palette, components, equipped⟩ := equipped_of_setUp whole ready
  obtain ⟨word, width⟩ := rowByteWidth_ok setUp.width
  have high : rows.assembler.shape.rows = rows.consumer.sink.height := by
    rw [setUp.fits.sink_eq]
    exact setUp.rows_eq.trans setUp.height.symm
  have accepts : Accepts rows.consumer rows.assembler.shape.rows :=
    (show rows.assembler.shape.rows = format.rows from setUp.rows_eq) ▸ setUp.accepts
  have copes := equipped.copes setUp.fits.clamped rfl high
  rw [width] at copes
  refine .require_bind ⟨word, width⟩ (.bind (.lift _ _) fun _ mid ran => ?_)
  obtain ⟨stop, rfl⟩ := Session.checkStop_ok ran
  exact copes.decodeSession_agrees within accepts setUp.holds format.compression

/-- **Nothing is out of reach while a frame is decoded.** Whatever the format, the image, the
source and the stop: the wary decoder comes to an end, and it is the end that the decoder comes to
that does not look. The image is whole again. -/
theorem decodeWarily_eq (within : ReadsWithin σ) {image : PixelBuffer} (whole : image.Whole)
    (format : FrameFormat) (source : σ) (stop : Stop) :
    format.decodeWarily source image stop = some (format.decode source image stop)
      ∧ (format.decode source image stop).sink.Whole := by
  refine ⟨?_, whole_sink_decode whole format source stop⟩
  unfold decodeWarily
  cases ready : format.setUp image with
  | error err => rw [decode_of_error ready]
  | ok rows =>
    have agrees := session_agrees within whole ready source stop
    rw [decode_of_ok ready]
    dsimp only
    cases ran : checkedSession format.compression ⟨source, rows, stop⟩ with
    | ok outcome session => rw [agrees.of_ok ran]
    | error err session => rw [agrees.of_error ran]

/-- Two rows of three indices with four bits each, and two colours for them. -/
def threeIndices : FrameFormat :=
  { columns := 3, rows := 2, depth := 4, model := .indexed, compression := .second, paired := true
    palette := some (.ofRGB #[(0, 0, 0), (255, 255, 255)]) }

/-- Samples get two bytes, one of them makes a row, deltas are switched on, and the source ends in
the middle of the next row. In both rows an index is too large. -/
theorem decodeWarily_eq_threeIndices :
    let source := Cursor.ofBytes #[0x7D, 2, 0x80, 0x01, 0x20, 0x7E, 0x01, 0x30]
    let image : PixelBuffer := ⟨3, 2, .rgb, Array.replicate 18 0, 0⟩
    let decoded := threeIndices.decode source image .never
    ReadsWithin Cursor ∧ image.Whole
      ∧ (threeIndices.decodeWarily source image .never = some decoded ∧ decoded.sink.Whole)
      ∧ decoded.result.toOption = some (.truncated 1) ∧ decoded.clamped = 2 := by
  have whole : PixelBuffer.Whole ⟨3, 2, .rgb, Array.replicate 18 0, 0⟩ := ⟨rfl, by decide⟩
  exact ⟨Cursor.readsWithin, whole, decodeWarily_eq Cursor.readsWithin whole _ _ _,
    by decide +kernel, by decide +kernel⟩

end FrameFormat

end WpgRaster
