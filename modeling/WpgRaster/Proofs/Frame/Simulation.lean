import WpgRaster.Proofs.Comparison
import WpgRaster.Proofs.Frame.Congruence
import WpgRaster.Proofs.Frame.Setup

/-!
# Simulated sources and sinks

Decoding touches its source through two reads only and its sink through
five operations. A source that answers these reads as another one does,
and a sink that answers these operations as another one does, can take the
other's place: the frame ends the same way, after as many questions to the
stop and with as many clamped indices, and leaves a source and a sink
behind that are still related (`FrameFormat.decode_simulates`).

A source may also answer as another one does until it fails for good. Then the
frame ends the same way, or with that failure (`FrameFormat.decode_compares`).
-/

namespace WpgRaster

/-- **A source that simulates another one**, as far as decoding a frame
reads it. -/
structure SourceSimulates {σ σ' : Type} [ByteSource σ] [ByteSource σ'] (rel : σ → σ' → Prop) :
    Prop where
  /-- Both hold as many bytes. -/
  size : ∀ source source', rel source source' →
    ByteSource.size source = ByteSource.size source'
  /-- The next byte is the same. -/
  nextByte : Simulates rel (Token.nextByte : EStateM RasterError σ UInt8)
    (Token.nextByte : EStateM RasterError σ' UInt8)
  /-- So is the next packed row. -/
  nextRow : ∀ width, Simulates rel
    (FrameFormat.nextRow width : EStateM RasterError σ Bytes)
    (FrameFormat.nextRow width : EStateM RasterError σ' Bytes)

/-- **A source that takes the place of another one until it fails**, in a way that
ends the frame at once. -/
structure SourceCompares {σ σ' : Type} [ByteSource σ] [ByteSource σ']
    (fatal : RasterError → Prop) (rel : σ → σ' → Prop) : Prop where
  /-- Both hold as many bytes. -/
  size : ∀ source source', rel source source' →
    ByteSource.size source = ByteSource.size source'
  /-- The next byte is the same. -/
  nextByte : Matches (.until fatal rel) rel (Token.nextByte : EStateM RasterError σ UInt8)
    (Token.nextByte : EStateM RasterError σ' UInt8)
  /-- So is the next packed row. -/
  nextRow : ∀ width, Matches (.until fatal rel) rel
    (FrameFormat.nextRow width : EStateM RasterError σ Bytes)
    (FrameFormat.nextRow width : EStateM RasterError σ' Bytes)
  /-- Nothing is filled up behind the failure. -/
  final : ∀ err, fatal err →
    err ≠ .rowsExhausted ∧ err ≠ .streamTruncated ∧ err.abortsFrame = false

/-- An error of a bitmap that comes of a fatal error of the source. -/
def RasterError.Fatal (fatal : SourceError → Prop) (err : RasterError) : Prop :=
  ∃ cause, err = .source cause ∧ fatal cause

/-- Such an error ends the frame at once. -/
theorem RasterError.Fatal.final {fatal : SourceError → Prop} {err : RasterError}
    (failed : err.Fatal fatal) :
    err ≠ .rowsExhausted ∧ err ≠ .streamTruncated ∧ err.abortsFrame = false := by
  obtain ⟨cause, rfl, -⟩ := failed
  exact ⟨nofun, nofun, rfl⟩

/-- A source that simulates another one never fails. -/
theorem SourceSimulates.compares {σ σ' : Type} [ByteSource σ] [ByteSource σ']
    {rel : σ → σ' → Prop} (reads : SourceSimulates rel) :
    SourceCompares (fun _ => False) rel where
  size := reads.size
  nextByte := reads.nextByte.compares
  nextRow width := (reads.nextRow width).compares
  final _ failed := failed.elim

/-- **A sink that simulates another one.** -/
structure SinkSimulates {κ κ' : Type} [RowSink κ] [RowSink κ'] (rel : κ → κ' → Prop) :
    Prop where
  /-- Rows have as many pixels. -/
  width : ∀ sink sink', rel sink sink' → RowSink.width sink = RowSink.width sink'
  /-- There are as many of them. -/
  height : ∀ sink sink', rel sink sink' → RowSink.height sink = RowSink.height sink'
  /-- They are made of the same samples. -/
  colorSpace : ∀ sink sink', rel sink sink' →
    RowSink.colorSpace sink = RowSink.colorSpace sink'
  /-- A row is begun alike. -/
  beginRow : ∀ row, Simulates rel (RowSink.beginRow row : EStateM RasterError κ Nat)
    (RowSink.beginRow row : EStateM RasterError κ' Nat)
  /-- It is written alike. -/
  writeRow : ∀ row samples sink sink', rel sink sink' →
    rel (RowSink.writeRow row samples sink) (RowSink.writeRow row samples sink')
  /-- It is committed alike. -/
  commitRow : ∀ row, Simulates rel (RowSink.commitRow row : EStateM RasterError κ Unit)
    (RowSink.commitRow row : EStateM RasterError κ' Unit)

/-! ## Sessions -/

/-- Sessions with related sources and related consumers. -/
structure Session.Related {σ σ' κ κ' : Type} (relσ : σ → σ' → Prop) (relκ : κ → κ' → Prop)
    (session : Session σ κ) (session' : Session σ' κ') : Prop where
  /-- The sources are related. -/
  source : relσ session.source session'.source
  /-- So are the rows. -/
  rows : RowState.Related relκ session.rows session'.rows
  /-- The stop is the same. -/
  stop : session.stop = session'.stop

namespace Session

variable {σ σ' κ κ' α : Type} {relσ : σ → σ' → Prop} {relκ : κ → κ' → Prop}

theorem onSource_compares {fatal : RasterError → Prop} {step : EStateM RasterError σ α}
    {step' : EStateM RasterError σ' α} (steps : Matches (.until fatal relσ) relσ step step') :
    Matches (.until fatal (Related relσ relκ)) (Related relσ relκ)
      (onSource step : SessionM σ κ α) (onSource step' : SessionM σ' κ' α) where
  compared := by
    rintro session session' ⟨source, rows, stop⟩
    have results := steps.compared _ _ source
    rw [onSource_eq, onSource_eq]
    generalize step session.source = result, step' session'.source = result' at results
    cases results with
    | ok after => exact .ok ⟨after, rows, stop⟩
    | error same after => exact .error same ⟨after, rows, stop⟩
    | fatal failed => exact .fatal failed
    | late beyond => exact beyond.elim
  stays _ beyond := beyond.elim

theorem onRows_simulates {step : RowM κ α} {step' : RowM κ' α}
    (steps : Simulates (RowState.Related relκ) step step') :
    Simulates (Related relσ relκ) (onRows step : SessionM σ κ α)
      (onRows step' : SessionM σ' κ' α) := by
  rintro session session' ⟨source, rows, stop⟩
  have results := steps _ _ rows
  rw [onRows_eq, onRows_eq]
  generalize step session.rows = result, step' session'.rows = result' at results
  cases results with
  | ok after => exact .ok ⟨source, after, stop⟩
  | error after => exact .error ⟨source, after, stop⟩

theorem checkStop_simulates :
    Simulates (Related relσ relκ) (checkStop : SessionM σ κ Unit)
      (checkStop : SessionM σ' κ' Unit) := by
  rintro session session' ⟨source, rows, stop⟩
  rw [checkStop_eq, checkStop_eq, ← stop]
  cases Stop.check session.stop with
  | ok _ after => exact .ok ⟨source, rows, rfl⟩
  | error err after => exact .error ⟨source, rows, rfl⟩

theorem assembler_simulates :
    Simulates (Related relσ relκ) (assembler : SessionM σ κ RowAssembler)
      (assembler : SessionM σ' κ' RowAssembler) := by
  intro session session' related
  show Corresponds _ (.ok session.rows.assembler session) (.ok session'.rows.assembler session')
  rw [related.rows.assembler]
  exact .ok related

end Session

/-! ## Rasters -/

section

variable {σ σ' κ κ' : Type} [ByteSource σ] [ByteSource σ'] [RowConsumer κ] [RowConsumer κ']
  {relσ : σ → σ' → Prop} {relκ : κ → κ' → Prop} {fatal : RasterError → Prop}
  (reads : SourceCompares fatal relσ) (consumes : ConsumerSimulates relκ)

/-- Steps of sessions that compare, up to a failure of the first source. -/
abbrev SessionsCompare {α : Type} (fatal : RasterError → Prop) (relσ : σ → σ' → Prop)
    (relκ : κ → κ' → Prop) (step : SessionM σ κ α) (step' : SessionM σ' κ' α) : Prop :=
  Matches (.until fatal (Session.Related relσ relκ)) (Session.Related relσ relκ) step step'

/-- **Steps that compare are a congruence**, if the bytes of the sources do. -/
theorem SessionsCompare.tokenCongruence (consumes : ConsumerSimulates relκ)
    (byte : Matches (.until fatal relσ) relσ (Token.nextByte : EStateM RasterError σ UInt8)
      (Token.nextByte : EStateM RasterError σ' UInt8)) :
    Session.TokenCongruence fun ⦃_⦄ (step : SessionM σ κ _) (step' : SessionM σ' κ' _) =>
      SessionsCompare fatal relσ relκ step step' where
  pure := .pure
  throw _ := .throw rfl fun _ _ => id
  bind := .bind
  nextByte := Session.onSource_compares byte
  append byte :=
    (Session.onRows_simulates (RowAssembler.append_simulates consumes byte)).compares
  appendRepeated bytes count :=
    (Session.onRows_simulates (RowAssembler.appendRepeated_simulates consumes bytes count)).compares
  repeatRow count :=
    (Session.onRows_simulates (RowAssembler.repeatRow_simulates consumes count)).compares
  toggleDelta := by
    refine (Session.onRows_simulates ?_).compares
    exact .of_consumers fun asm consumer consumer' related => .ok ⟨rfl, related⟩
  checkStop := Session.checkStop_simulates.compares
  assembler := Session.assembler_simulates.compares

namespace FrameFormat

include reads consumes

theorem decodeRows_compares (compression : Compression) :
    SessionsCompare fatal relσ relκ (decodeRows compression) (decodeRows compression) := by
  have congruence : Session.Congruence fun ⦃_⦄ (step : SessionM σ κ _) (step' : SessionM σ' κ' _) =>
      SessionsCompare fatal relσ relκ step step' :=
    { SessionsCompare.tokenCongruence consumes reads.nextByte with
      nextRow := fun width => Session.onSource_compares (reads.nextRow width)
      appendAll := fun bytes =>
        (Session.onRows_simulates (RowAssembler.appendAll_simulates consumes bytes)).compares
      sized := fun step step' compares =>
        { compared := fun session session' related => by
            rw [reads.size _ _ related.source]
            exact (compares _).compared _ _ related
          stays := fun _ beyond => beyond.elim } }
  exact congruence.decodeRows compression

omit [ByteSource σ] [ByteSource σ'] reads in
/-- Bringing a frame to its end reads nothing. -/
theorem endRows_compares (rowsDecoded : Nat) (outcome : Except RasterError Unit) :
    SessionsCompare fatal relσ relκ (endRows rowsDecoded outcome)
      (endRows rowsDecoded outcome) := by
  have fill : SessionsCompare fatal relσ relκ (Session.onRows RowAssembler.fillRemaining)
      (Session.onRows RowAssembler.fillRemaining) :=
    (Session.onRows_simulates (RowAssembler.fillRemaining_simulates consumes)).compares
  exact endRows_related (SessionsCompare fatal relσ relκ) .pure
    (fun _ => .throw rfl fun _ _ => id) (fun last => fill.bind fun _ => last) rowsDecoded outcome

theorem decodeSession_compares (compression : Compression) :
    SessionsCompare fatal relσ relκ (decodeSession compression) (decodeSession compression) where
  compared session session' related := by
    -- rows that ended alike are brought to their end alike
    have ended : ∀ (outcome : Except RasterError Unit) {mid : Session σ κ} {mid' : Session σ' κ'},
        decodeRows compression session = conclude outcome mid →
        decodeRows compression session' = conclude outcome mid' →
        Session.Related relσ relκ mid mid' →
        Compared (.until fatal (Session.Related relσ relκ)) (fun _ => Session.Related relσ relκ)
          (decodeSession compression session) (decodeSession compression session') := by
      intro outcome mid mid' ran ran' behind
      rw [decodeSession_eq ran, decodeSession_eq ran', behind.rows.assembler]
      exact (endRows_compares consumes _ outcome).compared mid mid' behind
    have results := (decodeRows_compares reads consumes compression).compared _ _ related
    generalize ran : decodeRows compression session = result,
      ran' : decodeRows compression session' = result' at results
    cases results with
    | @ok a _ _ behind => exact ended (.ok a) ran ran' behind
    | @error err _ mid mid' same behind =>
      cases same
      exact ended (.error err) ran ran' behind
    | @fatal err mid _ failed =>
      obtain ⟨more, early, kept⟩ := reads.final err failed
      rw [decodeSession_of_error ran more early, kept, if_neg Bool.false_ne_true]
      exact .fatal failed
    | late beyond => exact beyond.elim
  stays _ beyond := beyond.elim

theorem checkedSession_compares (compression : Compression) :
    SessionsCompare fatal relσ relκ (checkedSession compression) (checkedSession compression) :=
  Session.checkStop_simulates.compares.bind fun _ =>
    decodeSession_compares reads consumes compression

end FrameFormat

end

/-! ## Frames -/

/-- A check made before either of two computations. -/
theorem map_guard {α β : Type} {f : α → β} {failed : Prop} [Decidable failed] {err : RasterError}
    {next : PUnit → Except RasterError α} {next' : PUnit → Except RasterError β}
    (same : next' () = f <$> next ()) :
    (if failed then throw err >>= next' else next' ())
      = f <$> (if failed then throw err >>= next else next ()) := by
  by_cases wrong : failed
  · rw [if_pos wrong, if_pos wrong]
    rfl
  · rw [if_neg wrong, if_neg wrong]
    exact same

namespace Unpacker

variable {κ κ' : Type}

/-- The same unpacker before another sink. -/
def onto (unpacker : Unpacker κ) (sink : κ') : Unpacker κ' := { unpacker with sink }

/-- Unpackers that are the same but for their related sinks. -/
structure Related (rel : κ → κ' → Prop) (unpacker : Unpacker κ) (unpacker' : Unpacker κ') :
    Prop where
  /-- Rows are expanded alike. -/
  expander : unpacker.expander = unpacker'.expander
  /-- The sinks are related. -/
  sink : rel unpacker.sink unpacker'.sink
  /-- As many indices were clamped. -/
  clamped : unpacker.clamped = unpacker'.clamped

variable [RowSink κ] [RowSink κ'] {rel : κ → κ' → Prop} (sinks : SinkSimulates rel)

include sinks

/-- Unpackers before related sinks take the same rows. -/
theorem consume_simulates :
    ConsumerSimulates (Related rel) := by
  rintro row bytes ⟨expander, sink, clamped⟩ ⟨expander', sink', clamped'⟩ ⟨same, related, same'⟩
  dsimp only at same related same'
  subst same same'
  show Corresponds _ (consumeRow row bytes _) (consumeRow row bytes _)
  have begun := sinks.beginRow row sink sink' related
  unfold consumeRow
  dsimp only
  by_cases word : Size.limit ≤ expander.sampleCount
  · rw [if_pos word, if_pos word]
    exact .error ⟨rfl, related, rfl⟩
  rw [if_neg word, if_neg word]
  generalize RowSink.beginRow row sink = result, RowSink.beginRow row sink' = result' at begun
  cases begun with
  | error behind => exact .error ⟨rfl, behind, rfl⟩
  | @ok length sink sink' behind =>
    dsimp only
    split
    · exact .error ⟨rfl, behind, rfl⟩
    · have written := sinks.writeRow row (expander.expand bytes) sink sink' behind
      have committed := sinks.commitRow row _ _ written
      generalize RowSink.commitRow row (RowSink.writeRow row (expander.expand bytes) sink) = result,
        RowSink.commitRow row (RowSink.writeRow row (expander.expand bytes) sink') = result'
        at committed
      cases committed with
      | ok behind => exact .ok ⟨rfl, behind, rfl⟩
      | error behind => exact .error ⟨rfl, behind, rfl⟩

theorem build_onto (columns : Nat) (layout : Layout) (components : List Component)
    (palette : Palette) {sink : κ} {sink' : κ'} (related : rel sink sink') :
    build columns layout components palette sink'
      = (onto · sink') <$> build columns layout components palette sink := by
  have width := sinks.width sink sink' related
  have space := sinks.colorSpace sink sink' related
  unfold build
  rw [width, space]
  refine map_guard (map_guard ?_)
  rw [map_bind]
  rfl

theorem ofDepth_onto (columns depth : Nat) (model : ColorModel) (palette : Option Palette)
    {sink : κ} {sink' : κ'} (related : rel sink sink') :
    ofDepth columns depth model palette sink'
      = (onto · sink') <$> ofDepth columns depth model palette sink := by
  unfold ofDepth
  simp only [map_bind, build_onto sinks _ _ _ _ related]

theorem ofComponents_onto (columns : Nat) (components : List Component) {sink : κ} {sink' : κ'}
    (related : rel sink sink') :
    ofComponents columns components sink'
      = (onto · sink') <$> ofComponents columns components sink := by
  unfold ofComponents
  simp only [map_bind, build_onto sinks _ _ _ _ related]

end Unpacker

namespace FrameFormat

variable {σ σ' κ κ' : Type} [ByteSource σ] [ByteSource σ'] [RowSink κ] [RowSink κ']
  {relσ : σ → σ' → Prop} {relκ : κ → κ' → Prop}

theorem setUp_onto (sinks : SinkSimulates relκ) (format : FrameFormat) {sink : κ} {sink' : κ'}
    (related : relκ sink sink') :
    format.setUp sink' = (fun rows => ⟨rows.assembler, rows.consumer.onto sink'⟩)
      <$> format.setUp sink := by
  have height := sinks.height sink sink' related
  have depths := Unpacker.ofDepth_onto sinks format.columns format.depth format.model
    format.palette related
  have interleaved := fun components =>
    Unpacker.ofComponents_onto sinks format.columns components related
  have last : ∀ width (unpacker : Unpacker κ),
      (do
        let unpacker := unpacker.onto sink'
        let unpacker := if format.signed then unpacker.setSigned true else unpacker
        let assembler ← RowAssembler.make width format.rows format.paired
        return { assembler, consumer := unpacker })
      = (fun rows => ⟨rows.assembler, rows.consumer.onto sink'⟩ :
          RowState (Unpacker κ) → RowState (Unpacker κ')) <$> (do
        let unpacker := if format.signed then unpacker.setSigned true else unpacker
        let assembler ← RowAssembler.make width format.rows format.paired
        return { assembler, consumer := unpacker } :
          Except RasterError (RowState (Unpacker κ))) := by
    intro width unpacker
    dsimp only
    cases format.signed <;> cases RowAssembler.make width format.rows format.paired <;> rfl
  unfold setUp
  rw [height]
  refine map_guard (map_guard ?_)
  cases format.rowByteWidth with
  | error err => rfl
  | ok width =>
    cases format.components with
    | some components =>
      dsimp only
      rw [interleaved, map_bind]
      cases Unpacker.ofComponents format.columns components sink with
      | ok unpacker => exact last width unpacker
      | error err => rfl
    | none =>
      dsimp only
      rw [depths, map_bind]
      cases Unpacker.ofDepth format.columns format.depth format.model format.palette sink with
      | ok unpacker => exact last width unpacker
      | error err => rfl

end FrameFormat

/-- **Frames that ended alike.** -/
structure Decoded.Related {σ σ' κ κ' : Type} (relσ : σ → σ' → Prop) (relκ : κ → κ' → Prop)
    (decoded : Decoded σ κ) (decoded' : Decoded σ' κ') : Prop where
  /-- The outcome or the error is the same. -/
  result : decoded.result = decoded'.result
  /-- The sources that are left are related. -/
  source : relσ decoded.source decoded'.source
  /-- So are the sinks. -/
  sink : relκ decoded.sink decoded'.sink
  /-- The stop was asked as often. -/
  stop : decoded.stop = decoded'.stop
  /-- As many indices were clamped. -/
  clamped : decoded.clamped = decoded'.clamped

namespace FrameFormat

variable {σ σ' κ κ' : Type} [ByteSource σ] [ByteSource σ'] [RowSink κ] [RowSink κ']
  {relσ : σ → σ' → Prop} {relκ : κ → κ' → Prop}

/-- **Rasters that are set up alike are decoded alike**, from related sources, or
the first source fails. -/
theorem decode_of_setUps {format format' : FrameFormat} {relυ : Unpacker κ → Unpacker κ' → Prop}
    {fatal : RasterError → Prop} (reads : SourceCompares fatal relσ)
    (consumes : ConsumerSimulates relυ) (compression : format.compression = format'.compression)
    {source : σ} {source' : σ'} {sink : κ} {sink' : κ'} {rows : RowState (Unpacker κ)}
    {rows' : RowState (Unpacker κ')} (ready : format.setUp sink = .ok rows)
    (ready' : format'.setUp sink' = .ok rows') (origin : relσ source source')
    (into : RowState.Related relυ rows rows') (stop : Stop) :
    let decoded := format.decode source sink stop
    let decoded' := format'.decode source' sink' stop
    (decoded.result = decoded'.result ∧ relσ decoded.source decoded'.source
        ∧ decoded.stop = decoded'.stop
        ∧ ∃ unpacker unpacker', relυ unpacker unpacker' ∧ decoded.sink = unpacker.sink
          ∧ decoded'.sink = unpacker'.sink ∧ decoded.clamped = unpacker.clamped
          ∧ decoded'.clamped = unpacker'.clamped)
      ∨ ∃ err, decoded.result = .error err ∧ fatal err := by
  have whole := (checkedSession_compares reads consumes format.compression).compared
    ⟨source, rows, stop⟩ ⟨source', rows', stop⟩ ⟨origin, into, rfl⟩
  rw [decode_of_ok ready, decode_of_ok ready', ← compression]
  generalize (checkedSession format.compression : SessionM σ (Unpacker κ) Outcome) _ = result,
    (checkedSession format.compression : SessionM σ' (Unpacker κ') Outcome) _ = result'
    at whole ⊢
  cases whole with
  | ok behind =>
    exact .inl ⟨rfl, behind.source, behind.stop, _, _, behind.rows.consumer, rfl, rfl, rfl, rfl⟩
  | error same behind =>
    cases same
    exact .inl ⟨rfl, behind.source, behind.stop, _, _, behind.rows.consumer, rfl, rfl, rfl, rfl⟩
  | fatal failed => exact .inr ⟨_, rfl, failed⟩
  | late beyond => exact beyond.elim

/-- **Related sources and sinks take the place of each other until the source
fails**, whatever the format and the stop. -/
theorem decode_compares {fatal : RasterError → Prop} (reads : SourceCompares fatal relσ)
    (sinks : SinkSimulates relκ) (format : FrameFormat) {source : σ} {source' : σ'} {sink : κ}
    {sink' : κ'} (origin : relσ source source') (into : relκ sink sink') (stop : Stop) :
    Decoded.Related relσ relκ (format.decode source sink stop) (format.decode source' sink' stop)
      ∨ ∃ err, (format.decode source sink stop).result = .error err ∧ fatal err := by
  cases ready : format.setUp sink with
  | error err =>
    have ready' : format.setUp sink' = .error err := by
      rw [setUp_onto sinks format into, ready]
      rfl
    rw [decode_of_error ready, decode_of_error ready']
    exact .inl ⟨rfl, origin, into, rfl, rfl⟩
  | ok rows =>
    have ready' : format.setUp sink' = .ok ⟨rows.assembler, rows.consumer.onto sink'⟩ := by
      rw [setUp_onto sinks format into, ready]
      rfl
    have fits := ((format.setUp_yields sink).of_ok ready).fits
    have unpackers : Unpacker.Related relκ rows.consumer (rows.consumer.onto sink') :=
      ⟨rfl, fits.sink_eq.symm ▸ into, rfl⟩
    obtain ⟨result, source, stop, unpacker, unpacker', related, sink, sink', clamped, clamped'⟩
      | failed := decode_of_setUps reads (Unpacker.consume_simulates sinks) rfl ready ready' origin
        ⟨rfl, unpackers⟩ stop
    · refine .inl ⟨result, source, ?_, stop, ?_⟩
      · rw [sink, sink']
        exact related.sink
      · rw [clamped, clamped']
        exact related.clamped
    · exact .inr failed

/-- **Related sources and sinks take the place of each other**, whatever
the format and the stop. -/
theorem decode_simulates (reads : SourceSimulates relσ) (sinks : SinkSimulates relκ)
    (format : FrameFormat) {source : σ} {source' : σ'} {sink : κ} {sink' : κ'}
    (origin : relσ source source') (into : relκ sink sink') (stop : Stop) :
    Decoded.Related relσ relκ (format.decode source sink stop)
      (format.decode source' sink' stop) := by
  obtain related | ⟨_, _, failed⟩ := decode_compares reads.compares sinks format origin into stop
  · exact related
  · exact failed.elim

end FrameFormat

end WpgRaster
