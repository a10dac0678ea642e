import WpgRaster.Proofs.Pixel.Unpacking

/-!
# The unpacker of a frame

A frame is set up with an unpacker for its pixels (`FrameFormat.unpacker`), which are described by
a depth and a model or by their components, and may have a sign. What was proved of unpackers in
use holds of it (`FrameFormat.inUse_of_unpacker`), and the width of a packed row is counted in the
bits that its layout has for a pixel.
-/

namespace WpgRaster

/-- Bits of a pixel in a row of some layout. -/
def Layout.bitsPerPixel (layout : Layout) (components : List Component) : Nat :=
  match layout with
  | gray bits | indexed bits => bits
  | interleaved _ => Component.totalBytes components * 8

theorem Layout.bitsPerPixel_of_resolve {depth : Nat} {model : ColorModel} {layout : Layout}
    (resolved : resolve depth model = .ok layout) :
    layout.bitsPerPixel (layout.components depth) = depth := by
  unfold resolve at resolved
  split at resolved
  all_goals cases resolved
  all_goals rfl

/-- A sign takes no bytes. -/
theorem Component.totalBytes_signed (components : List Component) (signed : Bool) :
    totalBytes (components.map ({ · with signed })) = totalBytes components := by
  induction components with
  | nil => rfl
  | cons component rest ih =>
    rw [List.map_cons, totalBytes, totalBytes, ih]
    rfl

theorem Layout.bitsPerPixel_signed (layout : Layout) (components : List Component)
    (signed : Bool) :
    layout.bitsPerPixel (components.map ({ · with signed })) = layout.bitsPerPixel components := by
  cases layout with
  | gray bits => rfl
  | indexed bits => rfl
  | interleaved count => exact congrArg (· * 8) (Component.totalBytes_signed components signed)

namespace FrameFormat

variable {κ : Type} [RowSink κ] {format : FrameFormat} {sink : κ}

/-- The unpacker for pixels that are described in one way or the other. -/
def plainUnpacker (format : FrameFormat) (sink : κ) : Except RasterError (Unpacker κ) :=
  match format.components with
  | some components => Unpacker.ofComponents format.columns components sink
  | none => Unpacker.ofDepth format.columns format.depth format.model format.palette sink

/-- **The unpacker that a frame is set up with.** -/
def unpacker (format : FrameFormat) (sink : κ) : Except RasterError (Unpacker κ) := do
  let unpacker ← format.plainUnpacker sink
  return if format.signed then unpacker.setSigned true else unpacker

/-- Setting up, with the unpacker named. -/
theorem setUp_eq (format : FrameFormat) (sink : κ) : format.setUp sink = (do
    if format.columns = 0 ∨ format.rows = 0 then
      throw (.zeroDimensions format.columns format.rows)
    if RowSink.height sink ≠ format.rows then
      throw (.dimensionMismatch .height format.rows (RowSink.height sink))
    let width ← format.rowByteWidth
    let consumer ← format.unpacker sink
    let assembler ← RowAssembler.make width format.rows format.paired
    return { assembler, consumer }) := by
  unfold setUp unpacker plainUnpacker
  cases format.components <;> simp only [bind_assoc, pure_bind]

/-- What there is if a frame is set up. -/
theorem exists_of_setUp {rows : RowState (Unpacker κ)} (ready : format.setUp sink = .ok rows) :
    format.columns ≠ 0 ∧ format.unpacker sink = .ok rows.consumer := by
  rw [setUp_eq] at ready
  obtain ⟨measures, ready⟩ := of_except_guard ready
  obtain ⟨-, ready⟩ := of_except_guard ready
  obtain ⟨width, -, ready⟩ := exists_of_except_bind ready
  obtain ⟨consumer, built, ready⟩ := exists_of_except_bind ready
  obtain ⟨assembler, -, ready⟩ := exists_of_except_bind ready
  cases ready
  exact ⟨fun none => measures (.inl none), built⟩

/-- **The unpacker of a frame is in use**, and the frame has as many bits for a pixel as the
layout. -/
theorem inUse_of_unpacker {unpacker : Unpacker κ} (built : format.unpacker sink = .ok unpacker) :
    ∃ layout palette components,
      unpacker.InUse format.columns layout palette components
        ∧ format.bitsPerPixel = layout.bitsPerPixel components := by
  unfold FrameFormat.unpacker at built
  obtain ⟨plain, made, built⟩ := exists_of_except_bind built
  cases built
  have bits : ∃ layout palette components,
      plain.InUse format.columns layout palette components
        ∧ format.bitsPerPixel = layout.bitsPerPixel components := by
    unfold plainUnpacker at made
    unfold bitsPerPixel
    cases given : format.components with
    | some components =>
      rw [given] at made
      exact ⟨_, _, _, .ofComponents made, rfl⟩
    | none =>
      rw [given] at made
      obtain ⟨layout, resolved, -⟩ := exists_of_except_bind made
      exact ⟨_, _, _, .ofDepth resolved made, (Layout.bitsPerPixel_of_resolve resolved).symm⟩
  cases format.signed with
  | false => exact bits
  | true =>
    obtain ⟨layout, palette, components, used, wide⟩ := bits
    exact ⟨layout, palette, _, .setSigned true used,
      wide.trans (layout.bitsPerPixel_signed components true).symm⟩

end FrameFormat

end WpgRaster
