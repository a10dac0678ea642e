import WpgRaster.Proofs.Frame.Outcome
import WpgRaster.Proofs.Row.Log
import WpgRaster.Proofs.RunLength.Expansion

/-!
# Compressed frames

What compressed frames hand over, and which errors they report, said
without an assembler: a frame of the first generation is the expansion of
its codes, cut into rows (`decode_first_expands`); one of the second
generation is what the interpreter writes (`decode_second_interprets`).
-/

namespace WpgRaster

/-- A step of a session as a result and the session behind it. -/
def Session.outcome {σ κ α : Type} (step : SessionM σ κ α) (session : Session σ κ) :
    Except RasterError α × Session σ κ :=
  match step session with
  | .ok a session => (.ok a, session)
  | .error err session => (.error err, session)

/-- **A frame that was handed over**: the rows went to the consumer, in
order, and the errors are those that make a frame end. -/
structure Delivered {κ : Type} [RowConsumer κ] (start : κ) (rows : List Bytes)
    (aborted : RasterError → Prop) (result : Except RasterError Outcome) (consumer : κ) :
    Prop where
  /-- The rows were handed over. -/
  handed : Handed start rows consumer
  /-- Errors are reported exactly where a code makes no sense. -/
  error_iff : ∀ err, result = .error err ↔ aborted err

namespace FrameFormat

open RunLength

/-- Errors come from codes that make no sense. -/
theorem result_eq_error_iff (ending : Ending) (count : Nat) (err : RasterError) :
    ending.result count = .error err ↔ ending = .aborted err := by
  cases ending with
  | full => exact ⟨nofun, nofun⟩
  | cutLiteral => exact ⟨nofun, nofun⟩
  | short => exact ⟨nofun, nofun⟩
  | aborted err' =>
    refine ⟨fun same => ?_, fun same => ?_⟩
    · injection same with same
      rw [same]
    · injection same with same
      rw [same]
      rfl

/-- A session delivers what its raster says. -/
theorem decodeSession_delivers {κ : Type} [RowConsumer κ] {width count : Nat} {paired : Bool}
    {asm : RowAssembler} {consumer : κ} {stop : Stop}
    (made : RowAssembler.make width count paired = .ok asm) (accepts : Accepts consumer count)
    (silent : stop.Silent) (compression : Compression) (source : Cursor) :
    let final := compression.interpret ⟨width, count, paired⟩ source.rest
    let last := Session.outcome (decodeSession compression)
      { source, rows := ⟨asm, consumer⟩, stop }
    Delivered consumer (final.1.frame ⟨width, count, paired⟩)
      (fun err => final.2 = .aborted err) last.1 last.2.rows.consumer := by
  have holds := Holds.of_make made consumer
  have follows : Follows consumer ⟨width, count, paired⟩ {} source.rest
      ({ source, rows := ⟨asm, consumer⟩, stop } : Session Cursor κ) := ⟨holds, rfl, silent⟩
  obtain ⟨session, handed, ended⟩ :=
    decodeSession_interprets accepts holds.column compression follows
  unfold Session.outcome
  dsimp only
  rw [ended]
  generalize compression.interpret ⟨width, count, paired⟩ source.rest = final at handed
  have error_iff := result_eq_error_iff final.2 final.1.completed.length
  generalize final.2.result final.1.completed.length = result at error_iff
  cases result with
  | ok outcome => exact ⟨handed, error_iff⟩
  | error err => exact ⟨handed, error_iff⟩

/-- A frame delivers what its raster says. -/
theorem decode_delivers {κ : Type} [RowSink κ] {format : FrameFormat} {sink : κ}
    {rows : RowState (Unpacker κ)} {stop : Stop} (ready : format.setUp sink = .ok rows)
    (accepts : Accepts rows.consumer format.rows) (silent : stop.Silent) (source : Cursor) :
    let shape := ⟨rows.assembler.width, format.rows, format.paired⟩
    let final := format.compression.interpret shape source.rest
    let decoded := format.decode source sink stop
    ∃ unpacker, Delivered rows.consumer (final.1.frame shape)
        (fun err => final.2 = .aborted err) decoded.result unpacker
      ∧ decoded.sink = unpacker.sink := by
  have setUp := (format.setUp_yields sink).of_ok ready
  have shape : rows.assembler.shape
      = ⟨rows.assembler.width, format.rows, format.paired⟩ := by
    unfold RowAssembler.shape
    rw [setUp.rows_eq, setUp.paired]
  obtain ⟨result, unpacker, handed, sink_eq, -⟩ :=
    decode_interprets ready accepts silent source
  rw [shape] at result handed
  refine ⟨unpacker, ⟨handed, fun err => ?_⟩, sink_eq⟩
  rw [result]
  exact result_eq_error_iff _ _ err

/-! ## The first generation -/

/-- The interpretation of a raster of the first generation is its
expansion. -/
theorem interpret_first_eq (shape : Shape) (wide : 0 < shape.width) (raster : List UInt8) :
    let final := Compression.first.interpret shape raster
    let expansion := expand shape.width [] raster
    final.1.frame shape = cutRows shape.width shape.rows expansion.bytes
      ∧ ∀ err, final.2 = .aborted err ↔ expansion.Aborts shape.rows err := by
  have describes := interpret_first wide [] raster {}
  refine ⟨?_, describes.aborted⟩
  have frame := Sheet.frame_ofBytes wide (expand shape.width [] raster).bytes
  rw [← describes.sheet] at frame
  exact frame

/-- **Frames of the first generation are expanded and cut into rows.** What
is missing in the expansion is zero, and the frame ends with an error just
if a row repeat stands inside one of its rows. This holds of every
consumer that accepts the rows, and of every sink of a frame. -/
theorem decode_first_expands :
    (∀ {κ : Type} [RowConsumer κ] {width count : Nat} {paired : Bool} {asm : RowAssembler}
        {consumer : κ} {stop : Stop}, RowAssembler.make width count paired = .ok asm →
        Accepts consumer count → stop.Silent → ∀ source : Cursor,
        let expansion := expand width [] source.rest
        let last := Session.outcome (decodeSession .first)
          { source, rows := ⟨asm, consumer⟩, stop }
        Delivered consumer (cutRows width count expansion.bytes) (expansion.Aborts count)
          last.1 last.2.rows.consumer)
    ∧ ∀ {κ : Type} [RowSink κ] {format : FrameFormat} {sink : κ}
        {rows : RowState (Unpacker κ)} {stop : Stop}, format.compression = .first →
        format.setUp sink = .ok rows → Accepts rows.consumer format.rows → stop.Silent →
        ∀ source : Cursor,
        let width := rows.assembler.width
        let expansion := expand width [] source.rest
        let decoded := format.decode source sink stop
        ∃ unpacker, Delivered rows.consumer (cutRows width format.rows expansion.bytes)
            (expansion.Aborts format.rows) decoded.result unpacker
          ∧ decoded.sink = unpacker.sink := by
  constructor
  · intro κ _ width count paired asm consumer stop made accepts silent source
    have delivered := decodeSession_delivers made accepts silent .first source
    have wide := (Holds.of_make made consumer).column
    obtain ⟨frame, aborted⟩ := interpret_first_eq _ wide source.rest
    dsimp only at delivered ⊢
    rw [frame] at delivered
    exact ⟨delivered.handed, fun err => (delivered.error_iff err).trans (aborted err)⟩
  · intro κ _ format sink rows stop first ready accepts silent source
    obtain ⟨unpacker, delivered, sink_eq⟩ := decode_delivers ready accepts silent source
    have wide : 0 < rows.assembler.width :=
      ((format.setUp_yields sink).of_ok ready).holds.column
    obtain ⟨frame, aborted⟩ := interpret_first_eq
      ⟨rows.assembler.width, format.rows, format.paired⟩ wide source.rest
    dsimp only at delivered ⊢
    rw [first, frame] at delivered
    exact ⟨unpacker,
      ⟨delivered.handed, fun err => (delivered.error_iff err).trans (aborted err)⟩, sink_eq⟩

/-- A row of two bytes, and the same row once more. -/
def copied : Cursor := .ofBytes #[0x02, 1, 2, 0x00, 1]

/-- A log of two rows, and the image of one. -/
theorem decode_first_expands_copied :
    (∃ asm, RowAssembler.make 2 2 false = .ok asm ∧ Accepts RowLog.empty 2
      ∧ Stop.never.Silent
      ∧ let expansion := expand 2 [] copied.rest
        let last := Session.outcome (decodeSession .first)
          { source := copied, rows := ⟨asm, RowLog.empty⟩, stop := .never }
        Delivered RowLog.empty (cutRows 2 2 expansion.bytes) (expansion.Aborts 2) last.1
            last.2.rows.consumer
          ∧ last.2.rows.consumer.received = #[(0, #[1, 2]), (1, #[1, 2])])
    ∧ ∃ rows, pair.compression = .first ∧ pair.setUp pairImage = .ok rows
      ∧ Accepts rows.consumer pair.rows ∧ Stop.never.Silent
      ∧ let width := rows.assembler.width
        let expansion := expand width [] copied.rest
        let decoded := pair.decode copied pairImage .never
        ∃ unpacker, Delivered rows.consumer (cutRows width pair.rows expansion.bytes)
            (expansion.Aborts pair.rows) decoded.result unpacker
          ∧ decoded.sink = unpacker.sink := by
  have silent : Stop.never.Silent := fun _ => rfl
  constructor
  · exact ⟨_, rfl, RowLog.accepts_empty 2, silent,
      decode_first_expands.1 rfl (RowLog.accepts_empty 2) silent copied, rfl⟩
  · have accepts := ((pair.setUp_yields pairImage).of_ok rfl).accepts
    exact ⟨_, rfl, rfl, accepts, silent, decode_first_expands.2 rfl rfl accepts silent copied⟩

/-! ## The second generation -/

/-- **Frames of the second generation are what the interpreter writes**, on
a sheet that keeps the row above. What is missing is zero, and the frame
ends with an error just if the interpretation does: at samples of a size
that there is not, or at a row repeat inside a row. -/
theorem decode_second_interprets :
    (∀ {κ : Type} [RowConsumer κ] {width count : Nat} {asm : RowAssembler} {consumer : κ}
        {stop : Stop}, RowAssembler.make width count true = .ok asm →
        Accepts consumer count → stop.Silent → ∀ source : Cursor,
        let shape := ⟨width, count, true⟩
        let final := Interpreter.interpret shape .second {} source.rest
        let last := Session.outcome (decodeSession .second)
          { source, rows := ⟨asm, consumer⟩, stop }
        Delivered consumer (final.1.frame shape)
            (fun err => final.2 = .aborted err ∧ Interpreter.Violation final.1 err)
            last.1 last.2.rows.consumer)
    ∧ ∀ {κ : Type} [RowSink κ] {format : FrameFormat} {sink : κ}
        {rows : RowState (Unpacker κ)} {stop : Stop}, format.compression = .second →
        format.paired = true → format.setUp sink = .ok rows →
        Accepts rows.consumer format.rows → stop.Silent → ∀ source : Cursor,
        let shape := ⟨rows.assembler.width, format.rows, true⟩
        let final := Interpreter.interpret shape .second {} source.rest
        let decoded := format.decode source sink stop
        ∃ unpacker, Delivered rows.consumer (final.1.frame shape)
            (fun err => final.2 = .aborted err ∧ Interpreter.Violation final.1 err)
            decoded.result unpacker
          ∧ decoded.sink = unpacker.sink := by
  have violated : ∀ {shape : Shape} (raster : List UInt8) (err : RasterError),
      0 < shape.width →
      let final := Interpreter.interpret shape .second {} raster
      (final.2 = .aborted err ↔
        final.2 = .aborted err ∧ Interpreter.Violation final.1 err) := by
    intro shape raster err wide
    have empty : ({} : Interpreter).sheet.Within shape := .empty wide
    have fits := Interpreter.interpret_fits empty .second raster
    exact ⟨fun ended => ⟨ended, fits.violation err ended⟩, And.left⟩
  constructor
  · intro κ _ width count asm consumer stop made accepts silent source
    have delivered := decodeSession_delivers made accepts silent .second source
    have wide := (Holds.of_make made consumer).column
    exact ⟨delivered.handed, fun err =>
      (delivered.error_iff err).trans (violated source.rest err wide)⟩
  · intro κ _ format sink rows stop second paired ready accepts silent source
    obtain ⟨unpacker, delivered, sink_eq⟩ := decode_delivers ready accepts silent source
    have wide : 0 < rows.assembler.width :=
      ((format.setUp_yields sink).of_ok ready).holds.column
    rw [second, paired] at delivered
    exact ⟨unpacker, ⟨delivered.handed, fun err =>
      (delivered.error_iff err).trans (violated source.rest err wide)⟩, sink_eq⟩

/-- A row of two bytes, and the row that differs from it in all bits of the
first byte. -/
def flipped : Cursor := .ofBytes #[0x01, 1, 2, 0x7E, 0x01, 0xFF, 0x00]

/-- A log of two rows, and the image of one. -/
theorem decode_second_interprets_flipped :
    (∃ asm, RowAssembler.make 2 2 true = .ok asm ∧ Accepts RowLog.empty 2
      ∧ Stop.never.Silent
      ∧ let shape := ⟨2, 2, true⟩
        let final := Interpreter.interpret shape .second {} flipped.rest
        let last := Session.outcome (decodeSession .second)
          { source := flipped, rows := ⟨asm, RowLog.empty⟩, stop := .never }
        Delivered RowLog.empty (final.1.frame shape)
            (fun err => final.2 = .aborted err ∧ Interpreter.Violation final.1 err)
            last.1 last.2.rows.consumer
          ∧ last.2.rows.consumer.received = #[(0, #[1, 2]), (1, #[0xFE, 2])])
    ∧ ∃ rows, (pair.withCompression .second).compression = .second
      ∧ (pair.withCompression .second).paired = true
      ∧ (pair.withCompression .second).setUp pairImage = .ok rows
      ∧ Accepts rows.consumer (pair.withCompression .second).rows ∧ Stop.never.Silent
      ∧ let shape := ⟨rows.assembler.width, (pair.withCompression .second).rows, true⟩
        let final := Interpreter.interpret shape .second {} flipped.rest
        let decoded := (pair.withCompression .second).decode flipped pairImage .never
        ∃ unpacker, Delivered rows.consumer (final.1.frame shape)
            (fun err => final.2 = .aborted err ∧ Interpreter.Violation final.1 err)
            decoded.result unpacker
          ∧ decoded.sink = unpacker.sink := by
  have silent : Stop.never.Silent := fun _ => rfl
  constructor
  · exact ⟨_, rfl, RowLog.accepts_empty 2, silent,
      decode_second_interprets.1 rfl (RowLog.accepts_empty 2) silent flipped, rfl⟩
  · have accepts := (((pair.withCompression .second).setUp_yields pairImage).of_ok rfl).accepts
    exact ⟨_, rfl, rfl, rfl, accepts, silent,
      decode_second_interprets.2 rfl rfl rfl accepts silent flipped⟩

end FrameFormat

end WpgRaster
