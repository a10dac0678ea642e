import WpgRaster.Frame.Format
import WpgRaster.Pixel.Unpacker
import WpgRaster.RunLength.Decode

/-!
# Decoding a frame

`FrameFormat.decode` reads one frame from a source into a sink. Everything
that can be known beforehand is checked first: a format that makes no
sense, a sink that disagrees with it and memory that is not there are
reported before the source or the sink is touched.

How a frame may end:

* all rows are there: it is `complete`;
* the source ended early: the missing rows are filled with zeros and the
  frame is `truncated`;
* a token made no sense: the missing rows are filled with zeros and the
  error is reported;
* the caller stopped it, the source failed or the sink refused a row: the
  error is reported and the rows stay as they are.
-/

namespace WpgRaster

/-- How much of a frame came from its source. -/
inductive Outcome
  /-- All rows. -/
  | complete
  /-- So many rows; the others are zero. -/
  | truncated (rowsDecoded : Nat)
  deriving DecidableEq, Repr

/-- Whether all rows came from the source. -/
def Outcome.isComplete : Outcome → Bool
  | complete => true
  | truncated _ => false

/-- What a truncated frame is short of, as an error. -/
def Outcome.shortfall? : Outcome → Option RasterError
  | complete => none
  | truncated _ => some .streamTruncated

/-- The end of decoding a frame. -/
structure Decoded (σ κ : Type) where
  /-- The outcome, or what went wrong. -/
  result : Except RasterError Outcome
  /-- The source behind the frame. -/
  source : σ
  /-- The sink with the rows of the frame. -/
  sink : κ
  /-- The stop, and how often it was asked. -/
  stop : Stop
  /-- How many palette indices were beyond the palette. -/
  clamped : Nat

namespace FrameFormat

variable {σ κ : Type} [ByteSource σ]

/-! ## Packed rows -/

/-- Adds up to `need` bytes of the source to those there, in as many
partial reads as it takes, but at most `fuel`. Only a read of nothing
means that the source has ended. -/
def gather : (fuel need : Nat) → Bytes → SourceM σ Bytes
  | 0, _, bytes => pure bytes
  | fuel + 1, need, bytes => do
    if need = 0 then return bytes
    let chunk ← ByteSource.takeUpTo need
    if chunk.isEmpty then return bytes
    gather fuel (need - chunk.size) (bytes ++ chunk)

/-- The next packed row, or what is left of it. -/
def nextRow (width : Nat) : EStateM RasterError σ Bytes :=
  (gather width width #[]).adaptExcept .source

section

variable [RowConsumer κ]

/-- Reads `count` packed rows, asking the stop after each.

The bytes of a row are gathered in memory of their own, as long as a row
of the assembler. `RowAssembler.make` was granted as much, so that this
request cannot be refused (`Size.allocatable`), and there is no step for
it here. -/
def decodePacked (width : Nat) : (count : Nat) → SessionM σ κ Unit
  | 0 => pure ()
  | count + 1 => do
    let bytes ← Session.onSource (nextRow width)
    Session.onRows (RowAssembler.appendAll bytes.toList)
    if bytes.size < width then throw .streamTruncated
    Session.checkStop
    decodePacked width count

/-- Reads all rows of a frame. -/
def decodeRows (compression : Compression) : SessionM σ κ Unit := do
  match compression with
  | .none =>
    let asm ← Session.assembler
    decodePacked asm.width (asm.rows - asm.row)
  | .first => RunLength.decode .first
  | .second => RunLength.decode .second

/-! ## The end of a frame -/

/-- Reads all rows of a frame and brings it to an end. -/
def decodeSession (compression : Compression) : SessionM σ κ Outcome := fun session =>
  match decodeRows compression session with
  | .ok () session => .ok .complete session
  | .error .rowsExhausted session => .ok .complete session
  | .error .streamTruncated session =>
    (do
      let rowsDecoded := (← Session.assembler).row
      let _ ← Session.onRows RowAssembler.fillRemaining
      return .truncated rowsDecoded : SessionM σ κ Outcome) session
  | .error err session =>
    if err.abortsFrame then
      (do
        let _ ← Session.onRows RowAssembler.fillRemaining
        throw err : SessionM σ κ Outcome) session
    else .error err session

end

/-! ## The whole frame -/

variable [RowSink κ]

/-- The unpacker and the assembler of a frame, if the format makes sense
and the sink agrees with it. -/
def setUp (format : FrameFormat) (sink : κ) :
    Except RasterError (RowState (Unpacker κ)) := do
  if format.columns = 0 ∨ format.rows = 0 then
    throw (.zeroDimensions format.columns format.rows)
  if RowSink.height sink ≠ format.rows then
    throw (.dimensionMismatch .height format.rows (RowSink.height sink))
  let width ← format.rowByteWidth
  let unpacker ← match format.components with
    | some components => Unpacker.ofComponents format.columns components sink
    | none =>
      Unpacker.ofDepth format.columns format.depth format.model format.palette sink
  let unpacker := if format.signed then unpacker.setSigned true else unpacker
  let assembler ← RowAssembler.make width format.rows format.paired
  return { assembler, consumer := unpacker }

/-- Decodes a frame from a source into a sink. -/
def decode (format : FrameFormat) (source : σ) (sink : κ) (stop : Stop) :
    Decoded σ κ :=
  match format.setUp sink with
  | .error err => { result := .error err, source, sink, stop, clamped := 0 }
  | .ok rows =>
    let whole : SessionM σ (Unpacker κ) Outcome := do
      Session.checkStop
      decodeSession format.compression
    match whole { source, rows, stop } with
    | .ok outcome session => finish (.ok outcome) session
    | .error err session => finish (.error err) session
where
  /-- What remains of a session. -/
  finish (result : Except RasterError Outcome) (session : Session σ (Unpacker κ)) :
      Decoded σ κ :=
    { result
      source := session.source
      sink := session.rows.consumer.sink
      stop := session.stop
      clamped := session.rows.consumer.clamped }

end FrameFormat

end WpgRaster
