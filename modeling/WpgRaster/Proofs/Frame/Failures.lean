import WpgRaster.Proofs.Frame.RowProtocol
import WpgRaster.Proofs.Frame.Advance

/-!
# How a frame fails

A frame that is reported with an error failed in one of two ways. It may have failed
before it was begun: it could not be set up, or the stop did not let the first question
pass. Then source and sink are as they were. Or it failed while its rows were read.
Then there is a sheet that reading came to, and an error that aborts frames comes with
the whole frame of that sheet, filled up with zeros, whereas the others come with the
completed rows alone (`Failure`).

Sinks have a say in this as well: they may refuse rows, and say so with errors of their
own (`RasterError.OfSink`). An image refuses none, so that all errors are known there
(`FrameFormat.decode_fails`).
-/

namespace WpgRaster

/-! ## Rows that are refused -/

/-- **Errors of a row that is not taken**: the sink does not have it, or its row is too short, or
no word counts the samples. -/
inductive RasterError.OfSink : RasterError → Prop
  /-- The sink has no such row. -/
  | rowOutOfBounds (row rows : Nat) : OfSink (.rowOutOfBounds row rows)
  /-- The row takes fewer samples than there are. -/
  | rowLength (expected found : Nat) : OfSink (.dimensionMismatch .rowLength expected found)
  /-- There are more samples than a word counts. -/
  | overflow : OfSink .overflow

namespace RasterError.OfSink

variable {err : RasterError}

/-- They are no errors of setting up. -/
theorem not_ofSetUp (ofSink : err.OfSink) : ¬ err.OfSetUp := by
  intro ofSetUp
  cases ofSink with
  | rowOutOfBounds row rows => cases ofSetUp
  | overflow => cases ofSetUp
  | rowLength expected found =>
    cases ofSetUp with
    | dimensionMismatch _ _ other => exact other rfl

/-- They cannot be taken for something else. -/
theorem plainly (ofSink : err.OfSink) : FrameFormat.Plainly err := by
  cases ofSink <;> exact ⟨nofun, nofun, rfl⟩

/-- Nobody stopped the frame. -/
theorem ne_stopped (ofSink : err.OfSink) (reason : StopReason) : err ≠ .stopped reason := by
  cases ofSink <;> nofun

end RasterError.OfSink

section

variable {κ : Type} [RowSink κ] (refuses : RefusesOutside κ)

include refuses

/-- **A row is refused for the reasons of the sink.** -/
theorem Unpacker.ofSink_of_consume {unpacker after : Unpacker κ} {row : Nat} {bytes : Bytes}
    {err : RasterError} (failed : RowConsumer.consume row bytes unpacker = .error err after) :
    err.OfSink := by
  change consumeRow row bytes unpacker = _ at failed
  unfold consumeRow at failed
  dsimp only at failed
  split at failed
  · cases failed
    exact .overflow
  split at failed
  · next begun =>
    cases failed
    obtain ⟨index, rows, rfl⟩ := refuses.begin _ _ _ _ begun
    exact .rowOutOfBounds index rows
  · split at failed
    · cases failed
      exact .rowLength _ _
    · split at failed
      · cases failed
      · next committed =>
        cases failed
        obtain ⟨index, rows, rfl⟩ := refuses.commit _ _ _ _ committed
        exact .rowOutOfBounds index rows

theorem Unpacker.ofSink_of_refused {start consumer : Unpacker κ} {limit : Nat}
    {err : RasterError} (refused : Refused start limit err consumer) : err.OfSink := by
  obtain ⟨_, _, _, _, _, failed⟩ := refused
  exact ofSink_of_consume refuses failed

/-- A recorded sink only refuses what the sink in it refuses. -/
theorem Recorded.refusesOutside : RefusesOutside (Recorded κ) where
  begin := by
    rintro row ⟨sink, calls⟩ err after failed
    change record (.begin row) (RowSink.beginRow row) ⟨sink, calls⟩ = _ at failed
    cases begun : RowSink.beginRow row sink with
    | ok length sink' =>
      rw [record_of_ok begun] at failed
      cases failed
    | error err' sink' =>
      rw [record_of_error begun] at failed
      cases failed
      exact refuses.begin row sink _ _ begun
  commit := by
    rintro row ⟨sink, calls⟩ err after failed
    change record (.commit row) (RowSink.commitRow row) ⟨sink, calls⟩ = _ at failed
    cases committed : RowSink.commitRow row sink with
    | ok _ sink' =>
      rw [record_of_ok committed] at failed
      cases failed
    | error err' sink' =>
      rw [record_of_error committed] at failed
      cases failed
      exact refuses.commit row sink _ _ committed

end

/-! ## Frames that were begun -/

section

variable {σ κ : Type} [RowConsumer κ] {start : κ} {shape : Shape} {asked : Nat} {sheet : Sheet}

/-- **How a frame fails that was begun**, if no row of it is refused: with the
completed rows of a sheet, if it was stopped or its source failed, and with the whole
frame of the sheet, in which a row at least is filled up with zeros, if a token makes
no sense. -/
inductive Failure (start : κ) (shape : Shape) (asked : Nat) (sheet : Sheet) (checks : Nat)
    (consumer : κ) : RasterError → Prop
  /-- The stop did not let a question pass. -/
  | stopped (reason : StopReason) : asked < checks → Handed start sheet.completed consumer →
    Failure start shape asked sheet checks consumer (.stopped reason)
  /-- The source failed. -/
  | source (cause : SourceError) : Handed start sheet.completed consumer →
    Failure start shape asked sheet checks consumer (.source cause)
  /-- A row was to be repeated inside a row. -/
  | midRowRepeat (row column : Nat) : ¬ sheet.IsComplete shape →
    Handed start (sheet.frame shape) consumer →
    Failure start shape asked sheet checks consumer (.midRowRepeat row column)
  /-- The size of a sample makes no sense. -/
  | sampleSize (size : Nat) : ¬ sheet.IsComplete shape →
    Handed start (sheet.frame shape) consumer →
    Failure start shape asked sheet checks consumer (.invalidSampleSize size)

/-- The stop may have been asked earlier as well. -/
theorem Failure.mono {checks asked' : Nat} {consumer : κ} {err : RasterError}
    (failure : Failure start shape asked sheet checks consumer err) (earlier : asked' ≤ asked) :
    Failure start shape asked' sheet checks consumer err := by
  cases failure with
  | stopped reason later handed => exact .stopped reason (Nat.lt_of_le_of_lt earlier later) handed
  | source cause handed => exact .source cause handed
  | midRowRepeat row column short handed => exact .midRowRepeat row column short handed
  | sampleSize size short handed => exact .sampleSize size short handed

/-- It has no error of setting up. -/
theorem Failure.not_ofSetUp {checks : Nat} {consumer : κ} {err : RasterError}
    (failure : Failure start shape asked sheet checks consumer err) : ¬ err.OfSetUp := by
  intro ofSetUp
  cases failure <;> cases ofSetUp

/-- Neither that all rows are there nor that the source ended is a failure. -/
theorem Failure.plain {checks : Nat} {consumer : κ} {err : RasterError}
    (failure : Failure start shape asked sheet checks consumer err) :
    err ≠ .rowsExhausted ∧ err ≠ .streamTruncated := by
  cases failure <;> exact ⟨nofun, nofun⟩

/-- What a step answers and leaves behind if it follows the filling up of rows. -/
theorem fill_fails {α : Type} {session last : Session σ κ} {next : Nat → SessionM σ κ α}
    {err : RasterError} (holds : Holds start shape sheet session.rows)
    (failed : (Session.onRows RowAssembler.fillRemaining >>= next) session = .error err last) :
    Refused start shape.rows err last.rows.consumer
      ∨ ∃ count mid, Handed start (sheet.frame shape) mid.rows.consumer
        ∧ next count mid = .error err last := by
  have fill := Session.onRows_eq RowAssembler.fillRemaining session
  obtain ⟨count, rows, filled, handed⟩ | ⟨err', rows, broken, refused⟩ := holds.fillRemaining_lands
  · rw [filled] at fill
    rw [bind_of_ok fill] at failed
    exact .inr ⟨count, _, handed, failed⟩
  · rw [broken] at fill
    rw [bind_of_error fill] at failed
    cases failed
    exact .inl refused

variable [ByteSource σ]

namespace FrameFormat

/-- Rows are read once the stop was asked for the first time. -/
def readRows (compression : Compression) : SessionM σ κ Unit := do
  Session.checkStop
  decodeRows compression

/-- **A frame that was begun fails for a reason**, and its rows are accounted for. -/
theorem decodeSession_fails {session last : Session σ κ} {err : RasterError}
    {compression : Compression} (underway : Underway start shape asked {} session)
    (plainly : ∀ err consumer, Refused start shape.rows err consumer → Plainly err)
    (failed : decodeSession compression session = .error err last) :
    Refused start shape.rows err last.rows.consumer
      ∨ ∃ sheet, Holds start shape sheet (behind (decodeRows compression session)).rows
        ∧ Failure start shape asked sheet last.stop.checks last.rows.consumer err := by
  have keeps := decodeRows_keeps underway compression
  cases rows : decodeRows compression session with
  | ok _ mid =>
    rw [decodeSession_of_ok rows] at failed
    cases failed
  | error err' mid =>
    rw [rows] at keeps
    obtain ⟨sheet, held, explains⟩ | refused := keeps
    · cases explains with
      | full _ =>
        rw [decodeSession_of_rowsExhausted rows] at failed
        cases failed
      | bytes reported =>
        cases reported with
        | truncated =>
          rw [decodeSession_of_streamTruncated rows] at failed
          obtain refused | ⟨_, _, _, failed⟩ := fill_fails held failed
          · exact .inl refused
          · cases failed
        | source cause =>
          rw [decodeSession_of_error rows nofun nofun] at failed
          cases failed
          exact .inr ⟨sheet, held, .source cause held.handed⟩
      | violation short aborts =>
        cases err' with
        | midRowRepeat row column =>
          rw [decodeSession_of_error rows nofun nofun] at failed
          change (Session.onRows RowAssembler.fillRemaining >>= fun _ => _) mid = _ at failed
          obtain refused | ⟨_, _, handed, failed⟩ := fill_fails held failed
          · exact .inl refused
          · cases failed
            exact .inr ⟨sheet, held, .midRowRepeat row column short handed⟩
        | invalidSampleSize size =>
          rw [decodeSession_of_error rows nofun nofun] at failed
          change (Session.onRows RowAssembler.fillRemaining >>= fun _ => _) mid = _ at failed
          obtain refused | ⟨_, _, handed, failed⟩ := fill_fails held failed
          · exact .inl refused
          · cases failed
            exact .inr ⟨sheet, held, .sampleSize size short handed⟩
        | _ => cases aborts
      | stopped reason later =>
        rw [decodeSession_of_error rows nofun nofun] at failed
        cases failed
        exact .inr ⟨sheet, held, .stopped reason later held.handed⟩
    · obtain ⟨more, early, quiet⟩ := plainly err' _ refused
      rw [decodeSession_of_error rows more early, quiet] at failed
      cases failed
      exact .inl refused

/-- **So does a frame with its first question**, which leaves everything else as it is
if it ends the frame. -/
theorem checkedSession_fails {session last : Session σ κ} {err : RasterError}
    {compression : Compression} (holds : Holds start shape {} session.rows)
    (plainly : ∀ err consumer, Refused start shape.rows err consumer → Plainly err)
    (failed : checkedSession compression session = .error err last) :
    ((∃ reason, err = .stopped reason) ∧ readRows compression session = .error err last
        ∧ last = { session with
            stop := { session.stop with checks := session.stop.checks + 1 } })
      ∨ Refused start shape.rows err last.rows.consumer
      ∨ ∃ sheet, Holds start shape sheet (behind (readRows compression session)).rows
        ∧ Failure start shape (session.stop.checks + 1) sheet last.stop.checks
            last.rows.consumer err := by
  have checked := Session.checkStop_eq session
  unfold Stop.check at checked
  unfold checkedSession at failed
  unfold readRows
  cases asked : session.stop.answer session.stop.checks with
  | none =>
    rw [asked] at checked
    rw [bind_of_ok checked] at failed ⊢
    exact .inr (decodeSession_fails ⟨holds, Nat.le_refl _⟩ plainly failed)
  | some reason =>
    rw [asked] at checked
    rw [bind_of_error checked] at failed ⊢
    cases failed
    exact .inl ⟨⟨reason, rfl⟩, rfl, rfl⟩

end FrameFormat

end

/-! ## All frames -/

namespace FrameFormat

variable {σ κ : Type} [ByteSource σ] [RowSink κ]

/-- A frame that is reported with an error could not be set up, or it was begun. -/
theorem setUp_or_checkedSession_of_error {format : FrameFormat} {source : σ} {sink : κ}
    {stop : Stop} {err : RasterError}
    (failed : (format.decode source sink stop).result = .error err) :
    (err.OfSetUp ∧ format.decode source sink stop
        = { result := .error err, source, sink, stop, clamped := 0 })
      ∨ ∃ rows last, format.Ready sink rows ∧ format.setUp sink = .ok rows
        ∧ checkedSession format.compression { source, rows, stop } = .error err last
        ∧ format.decode source sink stop = decode.finish (.error err) last := by
  cases ready : format.setUp sink with
  | error err' =>
    have decoded := decode_of_error ready source stop
    rw [decoded] at failed
    cases failed
    exact .inl ⟨(format.setUp_yields sink).of_error ready, decoded⟩
  | ok rows =>
    have decoded := decode_of_ok ready source stop
    cases ran : checkedSession format.compression
        ({ source, rows, stop } : Session σ (Unpacker κ)) with
    | ok outcome last =>
      rw [ran] at decoded
      rw [decoded] at failed
      cases failed
    | error err' last =>
      rw [ran] at decoded
      rw [decoded] at failed
      cases failed
      exact .inr ⟨rows, last, (format.setUp_yields sink).of_ok ready, rfl, ran, decoded⟩

/-- What a sink refuses is not taken for something else. -/
theorem plainly_of_refuses (refuses : RefusesOutside κ) {start : Unpacker κ} {limit : Nat} :
    ∀ err consumer, Refused start limit err consumer → Plainly err :=
  fun _ _ refused => (Unpacker.ofSink_of_refused refuses refused).plainly

/-- **A frame that could not be set up, or was stopped at the first question**, has
touched neither its source nor its sink. -/
theorem decode_untouched (refuses : RefusesOutside κ) {format : FrameFormat} {source : σ}
    {sink : κ} {stop : Stop} {err : RasterError}
    (failed : (format.decode source sink stop).result = .error err)
    (early : err.OfSetUp ∨ (∃ reason, err = .stopped reason)
      ∧ (format.decode source sink stop).stop.checks = stop.checks + 1) :
    (format.decode source sink stop).sink = sink
      ∧ (format.decode source sink stop).source = source := by
  obtain ⟨-, decoded⟩ | ⟨rows, last, setUp, -, ran, decoded⟩ :=
    setUp_or_checkedSession_of_error failed
  · rw [decoded]
    exact ⟨rfl, rfl⟩
  rw [decoded] at early ⊢
  obtain ⟨-, -, rfl⟩ | refused | ⟨sheet, -, failure⟩ :=
    checkedSession_fails setUp.holds (plainly_of_refuses refuses) ran
  · exact ⟨setUp.fits.sink_eq, rfl⟩
  · have ofSink := Unpacker.ofSink_of_refused refuses refused
    obtain ofSetUp | ⟨⟨reason, stopped⟩, -⟩ := early
    · exact absurd ofSetUp ofSink.not_ofSetUp
    · exact absurd stopped (ofSink.ne_stopped reason)
  · obtain ofSetUp | ⟨⟨reason, rfl⟩, first⟩ := early
    · exact absurd ofSetUp failure.not_ofSetUp
    · cases failure with
      | stopped _ later _ => exact absurd first (Nat.ne_of_gt later)

/-- **The two errors that end all reading are answered by decoding itself.** -/
theorem decode_ne_ended (refuses : RefusesOutside κ) (format : FrameFormat) (source : σ)
    (sink : κ) (stop : Stop) :
    (format.decode source sink stop).result ≠ .error .rowsExhausted
      ∧ (format.decode source sink stop).result ≠ .error .streamTruncated := by
  have plain : ∀ err, (format.decode source sink stop).result = .error err →
      err ≠ .rowsExhausted ∧ err ≠ .streamTruncated := by
    intro err failed
    obtain ⟨ofSetUp, -⟩ | ⟨rows, last, setUp, -, ran, -⟩ :=
      setUp_or_checkedSession_of_error failed
    · cases ofSetUp <;> exact ⟨nofun, nofun⟩
    obtain ⟨⟨reason, rfl⟩, -⟩ | refused | ⟨sheet, -, failure⟩ :=
      checkedSession_fails setUp.holds (plainly_of_refuses refuses) ran
    · exact ⟨nofun, nofun⟩
    · obtain ⟨more, early, -⟩ := plainly_of_refuses refuses err _ refused
      exact ⟨more, early⟩
    · exact failure.plain
  exact ⟨fun failed => (plain _ failed).1 rfl, fun failed => (plain _ failed).2 rfl⟩

/-- **How an image fails that was begun**: by one of four errors, and with the rows
that reading came to. They are painted, and nothing below them. -/
theorem decode_image_fails {format : FrameFormat} {source : σ} {image : PixelBuffer}
    {stop : Stop} {err : RasterError}
    (failed : (format.decode source image stop).result = .error err) (begun : ¬ err.OfSetUp) :
    ∃ rows sheet painted, format.setUp image = .ok rows
      ∧ Holds rows.consumer rows.assembler.shape sheet
          (behind (readRows format.compression { source, rows, stop })).rows
      ∧ (format.decode source image stop).sink = painted.sink
      ∧ Failure rows.consumer rows.assembler.shape stop.checks sheet
          (format.decode source image stop).stop.checks painted err
      ∧ Unpacker.Painted rows.consumer
          (if err.abortsFrame then format.rows else sheet.completed.length) painted := by
  obtain ⟨ofSetUp, -⟩ | ⟨rows, last, setUp, ready, ran, decoded⟩ :=
    setUp_or_checkedSession_of_error failed
  · exact absurd ofSetUp begun
  have height : rows.assembler.shape.rows = format.rows := setUp.rows_eq
  have accepts : Accepts rows.consumer rows.assembler.shape.rows := height ▸ setUp.accepts
  have painted : ∀ {sheet}, Failure rows.consumer rows.assembler.shape stop.checks sheet
      last.stop.checks last.rows.consumer err → Unpacker.Painted rows.consumer
        (if err.abortsFrame then format.rows else sheet.completed.length)
        last.rows.consumer := by
    rintro sheet (⟨reason, -, handed⟩ | ⟨cause, handed⟩ | ⟨row, column, -, handed⟩
      | ⟨size, -, handed⟩)
    · exact Unpacker.painted_of_handed handed
    · exact Unpacker.painted_of_handed handed
    · have all := Unpacker.painted_of_handed handed
      rwa [sheet.length_frame, height] at all
    · have all := Unpacker.painted_of_handed handed
      rwa [sheet.length_frame, height] at all
  rw [decoded]
  obtain ⟨⟨reason, rfl⟩, read, rfl⟩ | refused | ⟨sheet, held, failure⟩ :=
    checkedSession_fails setUp.holds (plainly_of_refuses PixelBuffer.refusesOutside) ran
  · have failure : Failure rows.consumer rows.assembler.shape stop.checks {} (stop.checks + 1)
        rows.consumer (.stopped reason) := .stopped reason (Nat.lt_succ_self _) .none
    exact ⟨rows, {}, _, ready, read ▸ setUp.holds, rfl, failure, painted failure⟩
  · exact absurd refused accepts.not_refused
  · have earlier := failure.mono (Nat.le_succ stop.checks)
    exact ⟨rows, sheet, _, ready, held, rfl, earlier, painted earlier⟩

/-- **How decoding fails**, whatever the format, the source and the stop.

As long as a sink only refuses rows that it does not have: if the frame could not be set
up, or the first question stopped it, then the sink was called for no row, and source and
sink are as they were; and no frame is ever reported as having all its rows, or as
lacking some, by an error.

Of an image, moreover, every error is known. If it is none of setting up, then the frame
was stopped, its source failed, or a token of it made no sense. Only in the last case is
the frame filled up with zeros; otherwise the image has the completed rows, and nothing
below them has changed. -/
theorem decode_fails (refuses : RefusesOutside κ) (format : FrameFormat) (source : σ)
    (stop : Stop) :
    (∀ sink : κ,
      let decoded := format.decode source sink stop
      (∀ err, decoded.result = .error err →
        (err.OfSetUp
          ∨ (∃ reason, err = .stopped reason) ∧ decoded.stop.checks = stop.checks + 1) →
        format.sinkCalls source sink stop = [] ∧ decoded.sink = sink
          ∧ decoded.source = source)
        ∧ decoded.result ≠ .error .rowsExhausted
        ∧ decoded.result ≠ .error .streamTruncated)
      ∧ ∀ image : PixelBuffer,
        let decoded := format.decode source image stop
        ∀ err, decoded.result = .error err → ¬ err.OfSetUp →
          ∃ rows sheet painted, format.setUp image = .ok rows
            ∧ Holds rows.consumer rows.assembler.shape sheet
                (behind (readRows format.compression { source, rows, stop })).rows
            ∧ decoded.sink = painted.sink
            ∧ Failure rows.consumer rows.assembler.shape stop.checks sheet
                decoded.stop.checks painted err
            ∧ Unpacker.Painted rows.consumer
                (if err.abortsFrame then format.rows else sheet.completed.length)
                painted := by
  refine ⟨fun sink => ⟨fun err failed early => ?_, decode_ne_ended refuses format source sink stop⟩,
    fun image err failed begun => decode_image_fails failed begun⟩
  have recorded := format.decode_recorded source sink stop
  have untouched :
      (format.decode source (Recorded.mk sink []) stop).sink = Recorded.mk sink [] := by
    rw [recorded.result] at failed
    rw [recorded.stop] at early
    exact (decode_untouched (Recorded.refusesOutside refuses) failed early).1
  exact ⟨congrArg Recorded.calls untouched, decode_untouched refuses failed early⟩

/-- One sample of a row, and then samples of nine bytes, which there are none of. -/
def nineByteSamples : Cursor := .ofBytes #[0x00, 5, 0x7D, 9]

set_option maxRecDepth 2000 in
/-- The pixel that is there is kept, and the other one is filled up. -/
theorem decode_fails_nineByteSamples :
    RefusesOutside PixelBuffer
      ∧ let format := pair.withCompression .second
        let decoded := format.decode nineByteSamples pairImage .never
        decoded.result = .error (.invalidSampleSize 9) ∧ decoded.sink.pixels = #[0x0505, 0]
          ∧ ((∀ err, decoded.result = .error err →
              (err.OfSetUp
                ∨ (∃ reason, err = .stopped reason) ∧ decoded.stop.checks = Stop.never.checks + 1) →
              format.sinkCalls nineByteSamples pairImage .never = [] ∧ decoded.sink = pairImage
                ∧ decoded.source = nineByteSamples)
            ∧ decoded.result ≠ .error .rowsExhausted
            ∧ decoded.result ≠ .error .streamTruncated)
          ∧ ∃ rows sheet painted, format.setUp pairImage = .ok rows
            ∧ Holds rows.consumer rows.assembler.shape sheet
                (behind (readRows format.compression
                  { source := nineByteSamples, rows, stop := .never })).rows
            ∧ decoded.sink = painted.sink
            ∧ Failure rows.consumer rows.assembler.shape Stop.never.checks sheet
                decoded.stop.checks painted (.invalidSampleSize 9)
            ∧ Unpacker.Painted rows.consumer format.rows painted := by
  have failed : ((pair.withCompression .second).decode nineByteSamples pairImage .never).result
      = .error (.invalidSampleSize 9) := rfl
  obtain ⟨sinks, images⟩ := decode_fails PixelBuffer.refusesOutside (pair.withCompression .second)
    nineByteSamples .never
  exact ⟨PixelBuffer.refusesOutside, failed, rfl, sinks pairImage, images pairImage _ failed nofun⟩

end FrameFormat

end WpgRaster
