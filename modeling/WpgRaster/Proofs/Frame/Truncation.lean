import WpgRaster.Proofs.Frame.Outcome
import WpgRaster.Proofs.Pixel.Image
import WpgRaster.Proofs.RunLength.Prefix
import WpgRaster.Proofs.Source.Supply

/-!
# Sources that end early

A source that is cut short is decoded as far as it goes. What is decoded of
it is not taken back when the rest of the source is there: the rows that
count as decoded are the same ones, and a frame that is complete without
the rest, or makes no sense without it, stays what it is
(`decode_of_append`).
-/

namespace WpgRaster

open RunLength (Ending)
open RunLength.Interpreter (Decides)

/-- **A raster decides what it says**, in every compression. -/
theorem Compression.interpret_append {shape : Shape} (wide : 0 < shape.width)
    (compression : Compression) (raster more : List UInt8) :
    Decides (compression.interpret shape raster)
      (compression.interpret shape (raster ++ more)) := by
  have empty : ({} : Sheet).Within shape := .empty wide
  cases compression with
  | none =>
    unfold interpret
    dsimp only
    rw [Sheet.writeAll_append, List.length_append]
    refine ⟨Sheet.isPrefix_writeAll _ more, fun settled => ?_⟩
    by_cases short : raster.length < shape.rows * shape.width
    · rw [if_pos short] at settled
      obtain same | ⟨err, same⟩ := settled <;> cases same
    · have full := (empty.isComplete_writeAll_iff raster).mpr (by rw [Sheet.room_empty]; omega)
      rw [Sheet.writeAll_of_isComplete full, if_neg short, if_neg (by omega)]
  | first => exact RunLength.Interpreter.interpret_append empty .first raster more
  | second => exact RunLength.Interpreter.interpret_append empty .second raster more

namespace FrameFormat

/-- A frame is reported as truncated behind the rows that were decoded. -/
theorem result_eq_truncated {ending : Ending} {decoded count : Nat}
    (truncated : ending.result decoded = .ok (.truncated count)) : count = decoded := by
  cases ending with
  | full => cases truncated
  | cutLiteral => cases truncated; rfl
  | short => cases truncated; rfl
  | aborted err => cases truncated

/-- Any other report means that no byte was missing. -/
theorem settled_of_result {ending : Ending} {decoded : Nat}
    (settled : ending.result decoded = .ok .complete
      ∨ ∃ err, ending.result decoded = .error err) :
    ending = .full ∨ ∃ err, ending = .aborted err := by
  cases ending with
  | full => exact .inl rfl
  | aborted err => exact .inr ⟨err, rfl⟩
  | cutLiteral => obtain same | ⟨err, same⟩ := settled <;> cases same
  | short => obtain same | ⟨err, same⟩ := settled <;> cases same

variable {σ σ' : Type} [ByteSource σ] [ByteSource σ'] {format : FrameFormat}
  {image : PixelBuffer} {rows : RowState (Unpacker PixelBuffer)} {stop stop' : Stop}

/-- **A frame does what the raster says that a source supplies.** -/
theorem decode_supplied (ready : format.setUp image = .ok rows) (silent : stop.Silent)
    {source : σ} {raster : List UInt8} (supplies : Supplies source raster) :
    let final := format.compression.interpret rows.assembler.shape raster
    let decoded := format.decode source image stop
    decoded.result = final.2.result final.1.completed.length
      ∧ ∃ painted, Handed rows.consumer (final.1.frame rows.assembler.shape) painted
        ∧ decoded.sink = painted.sink := by
  have setUp := (format.setUp_yields image).of_ok ready
  obtain ⟨cursor, rest, result, sink, -⟩ := supplies.decode_eq format image stop
  obtain ⟨interpreted, painted, handed, written, -⟩ :=
    decode_interprets ready setUp.accepts silent cursor
  rw [rest] at interpreted handed
  exact ⟨result.trans interpreted, painted, handed, sink.trans written⟩

/-- **A raster may be followed by anything** if it is complete on its own, or
makes no sense on its own. -/
theorem decode_of_settled (ready : format.setUp image = .ok rows) (silent : stop.Silent)
    (silent' : stop'.Silent) {part : σ} {whole : σ'} {bytes more : List UInt8}
    (supplies : Supplies part bytes) (supplies' : Supplies whole (bytes ++ more))
    (settled : (format.decode part image stop).result = .ok .complete
      ∨ ∃ err, (format.decode part image stop).result = .error err) :
    (format.decode whole image stop').result = (format.decode part image stop).result
      ∧ (format.decode whole image stop').sink = (format.decode part image stop).sink := by
  have column := ((format.setUp_yields image).of_ok ready).holds.column
  obtain ⟨cut, painted, handed, written⟩ := decode_supplied ready silent supplies
  obtain ⟨decoded, painted', handed', written'⟩ := decode_supplied ready silent' supplies'
  rw [cut] at settled
  have same := (format.compression.interpret_append column bytes more).settled
    (settled_of_result settled)
  rw [same] at decoded handed'
  rw [decoded, cut, written, written', handed'.unique handed]
  exact ⟨rfl, rfl⟩

/-- A frame that is complete without the rest of its source is the same one
with it. -/
theorem decode_of_complete (silent : stop.Silent) (silent' : stop'.Silent) {part : σ} {whole : σ'}
    {bytes more : List UInt8} (supplies : Supplies part bytes)
    (supplies' : Supplies whole (bytes ++ more))
    (complete : (format.decode part image stop).result = .ok .complete) :
    (format.decode whole image stop').result = .ok .complete
      ∧ (format.decode whole image stop').sink = (format.decode part image stop).sink := by
  cases ready : format.setUp image with
  | error err =>
    rw [decode_of_error ready] at complete
    cases complete
  | ok rows =>
    rw [← complete]
    exact decode_of_settled ready silent silent' supplies supplies' (.inl complete)

/-- **Truncation never rewrites what was decoded.** Of two sources, one
supplies bytes and the other one the same bytes and more. If the frame of
the first is truncated, then the rows that count as decoded are also the
first rows of the frame of the second; and if it is complete, or ends with
an error, then so does the frame of the second, with the same image. -/
theorem decode_of_append (ready : format.setUp image = .ok rows) (silent : stop.Silent)
    (silent' : stop'.Silent) {part : σ} {whole : σ'} {bytes more : List UInt8}
    (supplies : Supplies part bytes) (supplies' : Supplies whole (bytes ++ more)) :
    let cut := format.decode part image stop
    let decoded := format.decode whole image stop'
    (∀ count, cut.result = .ok (.truncated count) →
        decoded.sink.top count = cut.sink.top count
          ∧ ∀ row, row < count → decoded.sink.row? row = cut.sink.row? row)
      ∧ (cut.result = .ok .complete ∨ (∃ err, cut.result = .error err) →
        decoded.result = cut.result ∧ decoded.sink = cut.sink) := by
  refine ⟨fun count truncated => ?_, decode_of_settled ready silent silent' supplies supplies'⟩
  have column := ((format.setUp_yields image).of_ok ready).holds.column
  have fits := format.compression.interpret_fits column bytes
  have fits' := format.compression.interpret_fits column (bytes ++ more)
  have decides := format.compression.interpret_append column bytes more
  obtain ⟨cut, painted, handed, written⟩ := decode_supplied ready silent supplies
  obtain ⟨-, painted', handed', written'⟩ := decode_supplied ready silent' supplies'
  rw [cut] at truncated
  obtain rfl := result_eq_truncated truncated
  have same := Unpacker.top_eq_of_isPrefix handed' handed
    (decides.completed.trans fits'.isPrefix_frame) fits.isPrefix_frame
  have measured := Unpacker.painted_of_handed handed
  have measured' := Unpacker.painted_of_handed handed'
  rw [written, written']
  exact ⟨same, fun row among => PixelBuffer.row?_eq_of_top_eq among
    (measured'.stride.trans measured.stride.symm) (measured'.size.trans measured.size.symm) same⟩

/-- Without its last two bytes, a frame of two rows is truncated behind the
first one. -/
theorem decode_of_append_copied :
    let part := Cursor.ofBytes #[0x02, 1, 2]
    let whole := ByteStream.ofBytes #[0x02, 1, 2, 0x00, 1] .buffered
    (∃ rows, square.setUp squareImage = .ok rows) ∧ Stop.never.Silent
      ∧ Supplies part [0x02, 1, 2] ∧ Supplies whole ([0x02, 1, 2] ++ [0x00, 1])
      ∧ let cut := square.decode part squareImage .never
        let decoded := square.decode whole squareImage .never
        ((∀ count, cut.result = .ok (.truncated count) →
            decoded.sink.top count = cut.sink.top count
              ∧ ∀ row, row < count → decoded.sink.row? row = cut.sink.row? row)
          ∧ (cut.result = .ok .complete ∨ (∃ err, cut.result = .error err) →
            decoded.result = cut.result ∧ decoded.sink = cut.sink))
        ∧ cut.result = .ok (.truncated 1) ∧ decoded.result = .ok .complete :=
  have silent : Stop.never.Silent := fun _ => rfl
  have supplies : Supplies (Cursor.ofBytes #[0x02, 1, 2]) [0x02, 1, 2] := Cursor.supplies _
  have supplies' : Supplies (ByteStream.ofBytes #[0x02, 1, 2, 0x00, 1] .buffered)
      ([0x02, 1, 2] ++ [0x00, 1]) := ByteStream.supplies _
  ⟨⟨_, rfl⟩, silent, supplies, supplies', decode_of_append rfl silent silent supplies supplies',
    rfl, rfl⟩

end FrameFormat

end WpgRaster
