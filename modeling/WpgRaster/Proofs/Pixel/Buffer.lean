import WpgRaster.Pixel.Buffer
import WpgRaster.Proofs.Frame.Setup

/-!
# Images accept their rows

An unpacker that agrees with an image can write all rows of it: the image
refuses only rows that it does not have, and a row of it has room for the
samples, since both sides compute their number in the same way. All that is
asked is that the number fits a word, and the rows of a frame that is set
up are not longer than that (`FrameFormat.Ready.word`).
-/

namespace WpgRaster

namespace Unpacker

/-- **An unpacker for images of certain measures.** -/
structure Suits (image : PixelBuffer) (unpacker : Unpacker PixelBuffer) : Prop where
  /-- Rows have as many pixels. -/
  columns : unpacker.expander.columns = image.width
  /-- Pixels have the same samples. -/
  samples : unpacker.expander.layout.colorSpace = image.colorSpace
  /-- The image that is written to has the width. -/
  width : unpacker.sink.width = image.width
  /-- It has the height. -/
  height : unpacker.sink.height = image.height
  /-- It has the colour space. -/
  colorSpace : unpacker.sink.colorSpace = image.colorSpace
  /-- A word counts the samples of a row. -/
  word : unpacker.expander.sampleCount < Size.limit

variable {image : PixelBuffer} {unpacker : Unpacker PixelBuffer}

/-- A row that the image has is taken, and the image keeps its measures. -/
theorem Suits.consume (suits : unpacker.Suits image) {row : Nat} (inside : row < image.height)
    (bytes : Bytes) :
    ∃ after, RowConsumer.consume row bytes unpacker = .ok () after ∧ after.Suits image := by
  have height := suits.height
  have there : ¬ unpacker.sink.height ≤ row := by omega
  have begun : RowSink.beginRow row unpacker.sink = .ok unpacker.sink.stride unpacker.sink :=
    if_neg there
  have length : unpacker.expander.sampleCount = unpacker.sink.stride := by
    unfold Expander.sampleCount PixelBuffer.stride
    rw [suits.columns, suits.samples, suits.width, suits.colorSpace]
  obtain ⟨after, committed, same⟩ : ∃ after,
      RowSink.commitRow row (RowSink.writeRow row (unpacker.expander.expand bytes)
        unpacker.sink) = .ok () after
      ∧ after.width = unpacker.sink.width ∧ after.height = unpacker.sink.height
      ∧ after.colorSpace = unpacker.sink.colorSpace :=
    ⟨_, if_neg there, rfl, rfl, rfl⟩
  refine ⟨⟨unpacker.expander, after, unpacker.clamped + unpacker.expander.clampedIn bytes⟩,
    ?_, suits.columns, suits.samples, same.1.trans suits.width, same.2.1.trans suits.height,
    same.2.2.trans suits.colorSpace, suits.word⟩
  show consumeRow row bytes unpacker = _
  unfold consumeRow
  dsimp only
  rw [if_neg (Nat.not_le.mpr suits.word), begun]
  dsimp only
  rw [if_neg (by omega), committed]

/-- **An image accepts all its rows.** -/
theorem Suits.accepts (suits : unpacker.Suits image) : Accepts unpacker image.height := by
  have kept : ∀ rows after, Handed unpacker rows after → rows.length ≤ image.height →
      after.Suits image := by
    intro rows after handed
    induction handed with
    | none => exact fun _ => suits
    | more _ taken ih =>
      intro few
      rw [List.length_append, List.length_singleton] at few
      obtain ⟨after', taken', suits'⟩ := (ih (by omega)).consume few _
      rw [taken] at taken'
      cases taken'
      exact suits'
  intro rows before handed few row
  obtain ⟨after, taken, -⟩ := (kept rows before handed (by omega)).consume few row
  exact ⟨after, taken⟩

end Unpacker

namespace FrameFormat

/-- **A frame that is set up for an image** has all its rows accepted. -/
theorem Ready.accepts {format : FrameFormat} {image : PixelBuffer}
    {rows : RowState (Unpacker PixelBuffer)} (ready : format.Ready image rows) :
    Accepts rows.consumer format.rows := by
  have fits := ready.fits
  have suits : rows.consumer.Suits image :=
    ⟨fits.columns, fits.colorSpace, by rw [fits.sink_eq], by rw [fits.sink_eq],
      by rw [fits.sink_eq], ready.word⟩
  have height : image.height = format.rows := ready.height
  rw [← height]
  exact suits.accepts

/-- One row of two gray pixels. -/
def pair : FrameFormat :=
  { columns := 2, rows := 1, depth := 8, model := .gray, compression := .first }

/-- An image of that size. -/
def pairImage : PixelBuffer := ⟨2, 1, .luma, #[0, 0], 0⟩

/-- Two such rows. -/
def square : FrameFormat := { pair with rows := 2 }

/-- An image of that size. -/
def squareImage : PixelBuffer := ⟨2, 2, .luma, #[0, 0, 0, 0], 0⟩

end FrameFormat

end WpgRaster
