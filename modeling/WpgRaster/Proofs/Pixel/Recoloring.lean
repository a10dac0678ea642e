import WpgRaster.Container.Colormap
import WpgRaster.Proofs.Frame.Simulation
import WpgRaster.Pixel.Buffer

/-!
# Palettes of the same shape

The colours of a palette say what an image looks like, and nothing else. Palettes
with as many colours and as much room (`Palette.SameShape`) are made into colormaps
alike (`Colormap.make_sameShape`), and rasters of indices are decoded alike with
either of them: the frame ends in the same way, as many rows are committed, and only
the samples may differ (`FrameFormat.decode_recolored`).
-/

namespace WpgRaster

/-- **Palettes that differ in their colours only.** -/
structure Palette.SameShape (palette palette' : Palette) : Prop where
  /-- They have as many colours. -/
  count : palette.count = palette'.count
  /-- They have as much room. -/
  capacity : palette.capacity = palette'.capacity

namespace Palette

theorem SameShape.refl (palette : Palette) : palette.SameShape palette := ⟨rfl, rfl⟩

variable {palette palette' : Palette}

theorem SameShape.symm (same : palette.SameShape palette') : palette'.SameShape palette :=
  ⟨same.count.symm, same.capacity.symm⟩

theorem SameShape.trans {palette'' : Palette} (first : palette.SameShape palette')
    (second : palette'.SameShape palette'') : palette.SameShape palette'' :=
  ⟨first.count.trans second.count, first.capacity.trans second.capacity⟩

/-- Palettes of the same shape are empty alike. -/
theorem SameShape.isEmpty_eq (same : palette.SameShape palette') :
    palette.isEmpty = palette'.isEmpty :=
  congrArg (fun count : Nat => decide (count = 0)) same.count

/-- They grow alike. -/
theorem SameShape.resize (same : palette.SameShape palette') (len : Nat) :
    SameOutcome SameShape (palette.resize len) (palette'.resize len) := by
  unfold Palette.resize
  rw [same.capacity, same.count]
  refine .ite (fun _ => .error) fun _ => .ite (fun _ => .ok same) fun _ => .ite (fun _ => .ok ?_)
    fun _ => .error
  refine ⟨?_, rfl⟩
  have count := same.count
  unfold Palette.count at count ⊢
  rw [Array.size_append, Array.size_append, count]

/-- **They are loaded alike**, from as many bytes. -/
theorem SameShape.load (same : palette.SameShape palette') (start count stride : Nat)
    {data data' : Bytes} (size : data.size = data'.size) :
    SameOutcome SameShape (palette.load start count data stride)
      (palette'.load start count data' stride) := by
  unfold Palette.load
  rw [same.capacity, size]
  refine .ite (fun _ => .error) fun _ => .ite (fun _ => .error) fun _ => .ite (fun _ => .error)
    fun _ => (same.resize (start + count)).bind fun grown grown' alike => .ok ⟨?_, alike.capacity⟩
  show (write ..).size = (write ..).size
  rw [size_write, size_write]
  exact alike.count

/-- Loading keeps the capacity. -/
theorem capacity_load {start count stride : Nat} {data : Bytes} {loaded : Palette}
    (ran : palette.load start count data stride = .ok loaded) :
    loaded.capacity = palette.capacity := by
  unfold Palette.load at ran
  dsimp only at ran
  split at ran
  · cases ran
  · split at ran
    · cases ran
    · split at ran
      · cases ran
      · obtain ⟨grown, resized, ran⟩ := exists_of_except_bind ran
        cases ran
        show grown.capacity = palette.capacity
        exact capacity_resize resized

/-- To set a colour that is there does not change the shape. -/
theorem set_sameShape {index : Nat} (there : index < palette.count)
    (room : index < palette.capacity) (entry : PaletteEntry) :
    ∃ changed, palette.set index entry = .ok changed ∧ palette.SameShape changed := by
  have grown : palette.resize (index + 1) = .ok palette := by
    unfold Palette.resize
    rw [if_neg (Nat.not_lt.mpr room), if_pos (Nat.succ_le_of_lt there)]
  refine ⟨{ palette with entries := palette.entries.setIfInBounds index entry }, ?_, ?_, rfl⟩
  · unfold Palette.set
    rw [if_neg (Nat.not_le.mpr room), grown]
    rfl
  · exact Array.size_setIfInBounds.symm

end Palette

/-! ## Colormaps -/

namespace Colormap

open Palette

/-- To tell two colours apart does not change the shape. -/
theorem repair_sameShape {palette : Palette} (colors : 2 ≤ palette.count)
    (room : 2 ≤ palette.capacity) :
    ∃ repaired, repair palette = .ok repaired ∧ palette.SameShape repaired := by
  unfold repair
  split
  · have grown : palette.resize 2 = .ok palette := by
      unfold Palette.resize
      rw [if_neg (Nat.not_lt.mpr room), if_pos colors]
    rw [grown]
    exact palette.set_sameShape colors room _
  · exact ⟨palette, rfl, .refl palette⟩

/-- **Palettes of the same shape are made into colormaps alike.** -/
theorem make_sameShape {palette palette' : Palette} (same : palette.SameShape palette')
    (room : 2 ≤ palette.capacity) (level : Level) (depth : Nat) :
    SameOutcome (Option.Rel SameShape) (make level (some palette) depth)
      (make level (some palette') depth) := by
  have refl : ∀ colormap, Option.Rel SameShape colormap colormap := by
    intro colormap
    cases colormap with
    | none => exact .none
    | some palette => exact .some (.refl palette)
  cases loaded : palette.isEmpty with
  | true =>
    -- then both are the default colormap
    have bases : ∀ colors,
        base level (some palette') colors = base level (some palette) colors := by
      intro colors
      unfold base
      dsimp only
      rw [← same.isEmpty_eq]
      rw [loaded, if_pos rfl, if_pos rfl]
    unfold make
    simp only [bases]
    exact .refl refl _
  | false =>
    have base_eq : ∀ colors, base level (some palette) colors = .ok palette := fun colors => by
      unfold base
      dsimp only
      rw [loaded, if_neg Bool.false_ne_true]
    have base_eq' : ∀ colors, base level (some palette') colors = .ok palette' := fun colors => by
      unfold base
      dsimp only
      rw [← same.isEmpty_eq, loaded, if_neg Bool.false_ne_true]
    have last : ∀ grown grown' : Palette, grown.SameShape grown' → Size.values depth ≤ grown.count →
        2 ≤ grown.capacity → SameOutcome (Option.Rel SameShape)
          (if depth = 1 then repair grown >>= fun palette => pure (some palette)
            else Except.ok grown >>= fun palette => pure (some palette))
          (if depth = 1 then repair grown' >>= fun palette => pure (some palette)
            else Except.ok grown' >>= fun palette => pure (some palette)) := by
      intro grown grown' alike colors room
      refine .ite (fun single => ?_) fun _ => .ok (.some alike)
      rw [single] at colors
      obtain ⟨repaired, done, shape⟩ := repair_sameShape colors room
      obtain ⟨repaired', done', shape'⟩ :=
        repair_sameShape (alike.count ▸ colors) (alike.capacity ▸ room)
      rw [done, done']
      exact .ok (.some ((shape.symm.trans alike).trans shape'))
    unfold make
    refine .ite (fun _ => .ok .none) fun _ => ?_
    dsimp only
    rw [base_eq, base_eq']
    show SameOutcome _ (if palette.count < Size.values depth then _ else _)
      (if palette'.count < Size.values depth then _ else _)
    rw [← same.count]
    refine .ite (fun _ => ?_) fun enough =>
      last palette palette' same (Nat.le_of_not_lt enough) room
    have resized := same.resize (Size.values depth)
    generalize ran : palette.resize (Size.values depth) = result,
      palette'.resize (Size.values depth) = result' at resized
    cases resized with
    | error => exact .error
    | @ok grown grown' alike =>
      refine last grown grown' alike ?_ ?_
      · rw [count_resize ran]
        exact Nat.le_max_right _ _
      · rw [capacity_resize ran]
        exact room

end Colormap

/-! ## Rasters -/

/-- **Images that differ in their samples only.** -/
structure PixelBuffer.SameMeasures (image image' : PixelBuffer) : Prop where
  /-- Rows have as many pixels. -/
  width : image.width = image'.width
  /-- There are as many of them. -/
  height : image.height = image'.height
  /-- Pixels have the same samples. -/
  colorSpace : image.colorSpace = image'.colorSpace
  /-- As many rows were committed. -/
  rowsCommitted : image.rowsCommitted = image'.rowsCommitted

theorem PixelBuffer.SameMeasures.refl (image : PixelBuffer) : image.SameMeasures image :=
  ⟨rfl, rfl, rfl, rfl⟩

namespace Unpacker

/-- **Unpackers that differ in the colours only**, and in what came of them. -/
structure Recolored (unpacker unpacker' : Unpacker PixelBuffer) : Prop where
  /-- Rows are expanded alike, but for the palette. -/
  expander : unpacker'.expander
    = { unpacker.expander with palette := unpacker'.expander.palette }
  /-- They go to images of the same measures. -/
  sink : unpacker.sink.SameMeasures unpacker'.sink

/-- The signs of samples have nothing to do with the palette. -/
theorem Recolored.setSigned {unpacker unpacker' : Unpacker PixelBuffer}
    (recolored : unpacker.Recolored unpacker') (signed : Bool) :
    (unpacker.setSigned signed).Recolored (unpacker'.setSigned signed) where
  expander := by
    show unpacker'.expander.setSigned signed = _
    rw [recolored.expander]
    rfl
  sink := recolored.sink

/-- Such unpackers take and refuse the same rows. -/
theorem consume_recolored : ConsumerSimulates Recolored := by
  rintro row bytes ⟨expander, image, clamped⟩ ⟨expander', image', clamped'⟩ ⟨same, measures⟩
  dsimp only at same measures
  have samples : expander'.sampleCount = expander.sampleCount := by
    rw [same]
    rfl
  have stride : image'.stride = image.stride := by
    unfold PixelBuffer.stride
    rw [measures.width, measures.colorSpace]
  show Corresponds _ (consumeRow row bytes _) (consumeRow row bytes _)
  unfold consumeRow
  dsimp only [RowSink.beginRow, RowSink.writeRow, RowSink.commitRow, PixelBuffer.beginRow,
    PixelBuffer.commitRow, PixelBuffer.writeRow]
  rw [← measures.height, samples]
  by_cases word : Size.limit ≤ expander.sampleCount
  · rw [if_pos word, if_pos word]
    exact .error ⟨same, measures⟩
  rw [if_neg word, if_neg word]
  by_cases beyond : image.height ≤ row
  · rw [if_pos beyond, if_pos beyond]
    exact .error ⟨same, measures⟩
  rw [if_neg beyond, if_neg beyond]
  dsimp only
  rw [stride]
  split
  · exact .error ⟨same, measures⟩
  · have beyond' : ¬ image'.height ≤ row := measures.height ▸ beyond
    rw [if_neg beyond']
    exact .ok ⟨same, measures.width, measures.height, measures.colorSpace,
      congrArg (max · (row + 1)) measures.rowsCommitted⟩

/-- A palette is missing or not, whatever its colours. -/
theorem paletteFor_recolored {palette palette' : Option Palette}
    (same : Option.Rel Palette.SameShape palette palette') (layout : Layout) (depth : Nat) :
    SameOutcome (fun _ _ => True) (paletteFor layout depth palette)
      (paletteFor layout depth palette') := by
  cases layout with
  | indexed bits =>
    cases same with
    | none => exact .error
    | some shape =>
      unfold paletteFor
      dsimp only
      rw [shape.isEmpty_eq]
      exact .ite (fun _ => .error) fun _ => .ok trivial
  | gray bits => exact .ok trivial
  | interleaved count => exact .ok trivial

theorem build_recolored (columns : Nat) (layout : Layout) (components : List Component)
    (palette palette' : Palette) (image : PixelBuffer) :
    SameOutcome Recolored (build columns layout components palette image)
      (build columns layout components palette' image) := by
  unfold build
  have scaled : ∀ scales : List ComponentScale, SameOutcome Recolored
      (pure ⟨{ layout, columns, scales, palette }, image, 0⟩ : Except RasterError _)
      (pure ⟨{ layout, columns, scales, palette := palette' }, image, 0⟩) := fun scales =>
    .ok ⟨rfl, .refl image⟩
  dsimp only
  refine .ite (fun _ => .error) fun _ => .ite (fun _ => .error) fun _ => ?_
  exact (SameOutcome.refl (fun _ => rfl) _).bind fun scales _ same => same ▸ scaled scales

theorem ofDepth_recolored {palette palette' : Option Palette}
    (same : Option.Rel Palette.SameShape palette palette') (columns depth : Nat)
    (model : ColorModel) (image : PixelBuffer) :
    SameOutcome Recolored (ofDepth columns depth model palette image)
      (ofDepth columns depth model palette' image) := by
  unfold ofDepth
  refine (SameOutcome.refl (fun _ => rfl) _).bind fun layout _ same_layout => ?_
  cases same_layout
  exact (paletteFor_recolored same layout depth).bind fun _ _ _ => build_recolored ..

end Unpacker

namespace FrameFormat

/-- **Formats that differ in the colours of the palette only** are set up alike. -/
theorem setUp_recolored {format : FrameFormat} {palette : Option Palette}
    (same : Option.Rel Palette.SameShape format.palette palette) (image : PixelBuffer) :
    SameOutcome (RowState.Related Unpacker.Recolored) (format.setUp image)
      ({ format with palette }.setUp image) := by
  have last : ∀ width (unpacker unpacker' : Unpacker PixelBuffer), unpacker.Recolored unpacker' →
      SameOutcome (RowState.Related Unpacker.Recolored)
        (do
          let assembler ← RowAssembler.make width format.rows format.paired
          return ⟨assembler, if format.signed then unpacker.setSigned true else unpacker⟩)
        (do
          let assembler ← RowAssembler.make width format.rows format.paired
          return ⟨assembler, if format.signed then unpacker'.setSigned true else unpacker'⟩) := by
    intro width unpacker unpacker' recolored
    refine (SameOutcome.refl (fun _ => rfl) _).bind fun assembler _ same => ?_
    cases same
    refine .ok ⟨rfl, ?_⟩
    dsimp only
    split
    · exact recolored.setSigned true
    · exact recolored
  unfold setUp
  dsimp only
  refine .ite (fun _ => .error) fun _ => .ite (fun _ => .error) fun _ => ?_
  refine (SameOutcome.refl (fun _ => rfl) _).bind fun width _ same_width => ?_
  cases same_width
  cases format.components with
  | some components =>
    exact (SameOutcome.refl (fun _ => ⟨rfl, .refl _⟩) _).bind (last width)
  | none => exact (Unpacker.ofDepth_recolored same _ _ _ image).bind (last width)

/-- **Rasters are decoded alike whatever the colours of the palette are.** -/
theorem decode_recolored {σ σ' : Type} [ByteSource σ] [ByteSource σ'] {relσ : σ → σ' → Prop}
    (reads : SourceSimulates relσ) {format : FrameFormat} {palette : Option Palette}
    (same : Option.Rel Palette.SameShape format.palette palette) {source : σ} {source' : σ'}
    (origin : relσ source source') (image : PixelBuffer) (stop : Stop) :
    let decoded := format.decode source image stop
    let decoded' := { format with palette }.decode source' image stop
    decoded.result = decoded'.result ∧ relσ decoded.source decoded'.source
      ∧ decoded.stop = decoded'.stop ∧ decoded.sink.SameMeasures decoded'.sink := by
  have setUps := setUp_recolored same image
  generalize ready : format.setUp image = result,
    ready' : { format with palette }.setUp image = result'
    at setUps
  cases setUps with
  | error =>
    rw [decode_of_error ready, decode_of_error ready']
    exact ⟨rfl, origin, rfl, .refl image⟩
  | ok into =>
    have compression : format.compression = { format with palette }.compression := rfl
    obtain ⟨result, behind, asked, unpacker, unpacker', recolored, sink, sink', -⟩
      | ⟨_, _, failed⟩ :=
      decode_of_setUps reads.compares Unpacker.consume_recolored compression ready ready' origin
        into stop
    · refine ⟨result, behind, asked, ?_⟩
      rw [sink, sink']
      exact recolored.sink
    · exact failed.elim

end FrameFormat

end WpgRaster
