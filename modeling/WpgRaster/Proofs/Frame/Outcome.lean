import WpgRaster.Proofs.Frame.Meaning
import WpgRaster.Proofs.Pixel.Buffer

/-!
# What becomes of a frame

A frame that is set up, read from a cursor and never stopped, into a sink
that accepts all rows, is what its raster says (`decode_interprets`). So
the outcome is known: a frame is complete if all its rows come from the
source, with one exception (`decode_complete_iff`). A literal run asks for
its next byte before it looks whether there is a row for it. If the source
ends just where the last row ends, and the run does not, then the frame
counts as truncated although no row is missing.
-/

namespace WpgRaster.FrameFormat

section

variable {κ : Type} [RowSink κ] {format : FrameFormat} {sink : κ}
  {rows : RowState (Unpacker κ)} {stop : Stop}

/-- **Decoding a frame does what its raster says.** -/
theorem decode_interprets (ready : format.setUp sink = .ok rows)
    (accepts : Accepts rows.consumer format.rows) (silent : stop.Silent) (source : Cursor) :
    let final := format.compression.interpret rows.assembler.shape source.rest
    let decoded := format.decode source sink stop
    decoded.result = final.2.result final.1.completed.length
      ∧ ∃ unpacker, Handed rows.consumer (final.1.frame rows.assembler.shape) unpacker
        ∧ decoded.sink = unpacker.sink ∧ decoded.clamped = unpacker.clamped := by
  have setUp := (format.setUp_yields sink).of_ok ready
  have accepts' : Accepts rows.consumer rows.assembler.shape.rows := by
    show Accepts rows.consumer rows.assembler.rows
    rwa [setUp.rows_eq]
  have begun : RunLength.Follows rows.consumer rows.assembler.shape {} source.rest
      { source, rows, stop } := ⟨setUp.holds, rfl, silent⟩
  obtain ⟨asked, checked, follows⟩ := begun.checkStop
  obtain ⟨session, handed, ended⟩ :=
    decodeSession_interprets accepts' setUp.holds.column format.compression follows
  have whole : checkedSession format.compression { source, rows, stop }
      = decodeSession format.compression asked := bind_of_ok checked
  generalize format.compression.interpret rows.assembler.shape source.rest = final
    at handed ended
  dsimp only at ended ⊢
  rw [decode_of_ok ready, whole, ended]
  cases final.2.result final.1.completed.length with
  | ok outcome => exact ⟨rfl, _, handed, rfl, rfl⟩
  | error err => exact ⟨rfl, _, handed, rfl, rfl⟩

end

variable {format : FrameFormat} {image : PixelBuffer} {rows : RowState (Unpacker PixelBuffer)}
  {stop : Stop}

/-- **All rows from the source make a frame complete, unless the source
ends inside the literal run that completes them.** Then, and only then, a
frame counts as truncated that lacks no row. -/
theorem decode_complete_iff (ready : format.setUp image = .ok rows) (silent : stop.Silent)
    (source : Cursor) :
    let shape := rows.assembler.shape
    let sheet := (format.compression.interpret shape source.rest).1
    let cut := format.compression.EndsInLiteral shape source.rest
    let result := (format.decode source image stop).result
    (sheet.IsComplete shape → (result = .ok .complete ↔ ¬ cut))
      ∧ (result = .ok (.truncated format.rows) ↔ cut)
      ∧ ∀ count, result = .ok (.truncated count) →
          count = sheet.completed.length ∧ (count < format.rows ↔ ¬ cut) := by
  have setUp := (format.setUp_yields image).of_ok ready
  have height : rows.assembler.shape.rows = format.rows := setUp.rows_eq
  have fits := format.compression.interpret_fits setUp.holds.column source.rest
  obtain ⟨result, -⟩ := decode_interprets ready setUp.accepts silent source
  dsimp only
  rw [result, ← format.compression.interpret_eq_cutLiteral_iff]
  generalize format.compression.interpret rows.assembler.shape source.rest = final at fits
  obtain ⟨sheet, ending⟩ := final
  dsimp only at fits ⊢
  have complete := fits.isComplete_iff
  have few := fits.rows
  unfold Sheet.IsComplete at complete ⊢
  rw [height] at complete few ⊢
  cases ending with
  | full => exact ⟨fun _ => ⟨fun _ => nofun, fun _ => rfl⟩, ⟨nofun, nofun⟩, nofun⟩
  | cutLiteral =>
    have all : sheet.completed.length = format.rows :=
      Nat.le_antisymm few (complete.mpr (.inr rfl))
    refine ⟨fun _ => ⟨nofun, fun uncut => absurd rfl uncut⟩, ⟨fun _ => rfl, fun _ => ?_⟩, ?_⟩
    · exact congrArg (fun count => Except.ok (Outcome.truncated count)) all
    · rintro count ⟨⟩
      exact ⟨rfl, fun less => absurd all (Nat.ne_of_lt less), fun uncut => absurd rfl uncut⟩
  | short =>
    have less : sheet.completed.length < format.rows :=
      Nat.lt_of_not_le fun full => absurd (complete.mp full) nofun
    refine ⟨fun full => absurd (complete.mp full) nofun, ⟨fun same => ?_, nofun⟩, ?_⟩
    · have all : sheet.completed.length = format.rows := by
        injection same with same
        injection same
      exact absurd all (Nat.ne_of_lt less)
    · rintro count ⟨⟩
      exact ⟨rfl, fun _ => nofun, fun _ => less⟩
  | aborted err =>
    exact ⟨fun full => absurd (complete.mp full) nofun, ⟨nofun, nofun⟩, nofun⟩

/-! ## A run that is cut -/

/-- A literal run of four bytes, of which two are there. -/
def cutRun : Cursor := .ofBytes #[4, 1, 2]

set_option maxRecDepth 2000 in
/-- Both pixels come from the source, and the frame counts as truncated
behind the only row it has. -/
theorem decode_cutRun_truncated :
    (∃ rows, pair.setUp pairImage = .ok rows) ∧ Stop.never.Silent
      ∧ (pair.decode cutRun pairImage .never).result = .ok (.truncated pair.rows)
      ∧ (pair.decode cutRun pairImage .never).sink.pixels = #[0x0101, 0x0202] :=
  ⟨⟨_, rfl⟩, fun _ => rfl, rfl, rfl⟩

/-- What is known of this frame in general. -/
theorem decode_cutRun_complete_iff :
    ∃ rows, pair.setUp pairImage = .ok rows ∧ Stop.never.Silent
      ∧ let shape := rows.assembler.shape
        let sheet := (pair.compression.interpret shape cutRun.rest).1
        let cut := pair.compression.EndsInLiteral shape cutRun.rest
        let result := (pair.decode cutRun pairImage .never).result
        (sheet.IsComplete shape → (result = .ok .complete ↔ ¬ cut))
          ∧ (result = .ok (.truncated pair.rows) ↔ cut)
          ∧ ∀ count, result = .ok (.truncated count) →
              count = sheet.completed.length ∧ (count < pair.rows ↔ ¬ cut) :=
  ⟨_, rfl, fun _ => rfl, decode_complete_iff rfl (fun _ => rfl) cutRun⟩

end WpgRaster.FrameFormat
