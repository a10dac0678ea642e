import WpgRaster.Proofs.Frame.PackedRows
import WpgRaster.Proofs.Wary.Decoding

/-!
# Indices that are clamped

A frame of palette indices counts those that the palette has no colour for, and shows the last
colour in their place. The count is that of the packed rows which the frame committed
(`FrameFormat.decode_clamps`), however it ended: the bits behind the last pixel of a row do not
matter, pixels that were filled up have the index zero and are never counted, and nothing is left
of what was counted before.
-/

namespace WpgRaster

/-! ## Indices beyond a palette -/

/-- **The indices of packed rows**, pixel by pixel. The bits behind the last pixel of a row belong
to none of them. -/
def packedIndices (columns depth : Nat) (rows : List Bytes) : List Nat :=
  rows.flatMap fun row => (List.range columns).map fun x => packedIndex row x depth

/-- A row more has indices more. -/
theorem packedIndices_concat (columns depth : Nat) (rows : List Bytes) (row : Bytes) :
    packedIndices columns depth (rows ++ [row]) = packedIndices columns depth rows
      ++ (List.range columns).map fun x => packedIndex row x depth := by
  unfold packedIndices
  rw [List.flatMap_append, List.flatMap_singleton]

/-- A pixel in a byte without bits has the index zero. -/
theorem packedIndex_of_blank {row : Bytes} {x depth : Nat} (aligned : x * depth % 8 + depth ≤ 8)
    (blank : row[x * depth / 8]?.getD 0 = 0) : packedIndex row x depth = 0 := by
  rw [← packedSample_eq_packedIndex row aligned]
  unfold packedSample
  dsimp only
  rw [blank]
  exact (congrArg (· % _) (Nat.zero_div _)).trans (Nat.zero_mod _)

/-- The colour of an index is its own, if there is one, and otherwise the last one. -/
theorem Palette.get?_of_pos {palette : Palette} (some : 0 < palette.count) (index : Nat) :
    palette.get? (if index < palette.count then index else palette.count - 1)
      = Option.some (palette.colorOf index) := by
  have inside : min index (palette.count - 1) < palette.count := by omega
  have there : palette.entries[min index (palette.count - 1)]?
      = Option.some palette.entries[min index (palette.count - 1)] :=
    Array.getElem?_eq_getElem inside
  have place : (if index < palette.count then index else palette.count - 1)
      = min index (palette.count - 1) := by
    split <;> omega
  unfold get? colorOf
  rw [place, there]
  rfl

namespace Expander

variable {exp : Expander} {depth : Nat}

/-- **The indices that are clamped in a row** are those of its pixels that are beyond the
palette. -/
theorem clampedIn_of_indexed (layout : exp.layout = .indexed depth)
    (aligned : ∀ x, x * depth % 8 + depth ≤ 8) (row : Bytes) :
    exp.clampedIn row = ((List.range exp.columns).map fun x => packedIndex row x depth).countP
      (exp.palette.count ≤ ·) := by
  unfold clampedIn
  rw [layout, List.countP_map]
  refine List.countP_congr fun x _ => ?_
  rw [Palette.lookup_eq, packedSample_eq_packedIndex row (aligned x)]
  rfl

/-- A pixel of indices has the samples of its colour. -/
theorem samples_colorOf (layout : exp.layout = .indexed depth) (row : Bytes) (x : Nat) :
    (List.range 3).map (exp.sample row x)
      = (exp.palette.colorOf (packedSample row x depth)).samples := by
  show [exp.sample row x 0, exp.sample row x 1, exp.sample row x 2] = _
  unfold sample
  rw [layout]
  dsimp only
  rw [Palette.lookup_eq]
  rfl

end Expander

/-! ## Images of the same measures -/

/-- **What an image shows does not matter to the frame that is decoded into it.** -/
theorem PixelBuffer.simulates_of_measures :
    SinkSimulates fun image image' : PixelBuffer => image.width = image'.width
      ∧ image.height = image'.height ∧ image.colorSpace = image'.colorSpace where
  width _ _ same := same.1
  height _ _ same := same.2.1
  colorSpace _ _ same := same.2.2
  beginRow row := by
    rintro image image' ⟨wide, high, space⟩
    show Corresponds _ (beginRow row image) (beginRow row image')
    unfold beginRow stride
    rw [wide, high, space]
    split
    · exact .error ⟨wide, high, space⟩
    · exact .ok ⟨wide, high, space⟩
  writeRow _ _ _ _ same := same
  commitRow row := by
    rintro image image' ⟨wide, high, space⟩
    show Corresponds _ (commitRow row image) (commitRow row image')
    unfold commitRow
    rw [high]
    split
    · exact .error ⟨wide, high, space⟩
    · exact .ok ⟨wide, rfl, space⟩

/-! ## Frames of indices -/

namespace FrameFormat

/-- **A frame of palette indices.** -/
structure Indexes (format : FrameFormat) (palette : Palette) : Prop where
  /-- Indices have 2, 4 or 8 bits. -/
  depth : format.depth ∈ [2, 4, 8]
  /-- They are not levels of gray. -/
  model : format.model = .indexed
  /-- Pixels are described by their depth. -/
  components : format.components = none
  /-- Indices refer to a palette. -/
  palette : format.palette = some palette

namespace Indexes

variable {format : FrameFormat} {palette : Palette} (indexes : format.Indexes palette)

include indexes

/-- Indices do not reach across bytes. -/
theorem aligned (x : Nat) : x * format.depth % 8 + format.depth ≤ 8 :=
  aligned_of_mem (List.mem_cons_of_mem 1 indexes.depth) x

/-- **Rows of indices are expanded with the palette**, which has a colour. -/
theorem expander_of_setUp {κ : Type} [RowSink κ] {sink : κ} {rows : RowState (Unpacker κ)}
    (ready : format.setUp sink = .ok rows) :
    rows.consumer.expander.layout = .indexed format.depth
      ∧ rows.consumer.expander.palette = palette ∧ 0 < palette.count := by
  obtain ⟨-, built⟩ := exists_of_setUp ready
  unfold FrameFormat.unpacker plainUnpacker at built
  rw [indexes.components] at built
  obtain ⟨plain, made, built⟩ := exists_of_except_bind built
  obtain ⟨resolved, found⟩ := Unpacker.ofDepth_ok made
  have known : Layout.resolve format.depth format.model = .ok (.indexed format.depth) := by
    have few := indexes.depth
    rw [indexes.model]
    simp only [List.mem_cons, List.not_mem_nil, or_false] at few
    obtain few | few | few := few <;> rw [few] <;> rfl
  have layout : plain.expander.layout = .indexed format.depth :=
    Except.ok.inj (resolved.symm.trans known)
  rw [layout, indexes.palette] at found
  -- a sign changes neither the layout nor the palette
  have same : rows.consumer.expander.layout = plain.expander.layout
      ∧ rows.consumer.expander.palette = plain.expander.palette := by
    rw [← Except.ok.inj built]
    split <;> exact ⟨rfl, rfl⟩
  obtain ⟨loaded, filled⟩ := Unpacker.paletteFor_indexed found
  refine ⟨same.1.trans layout, same.2.trans (Option.some.inj loaded).symm, ?_⟩
  rw [Option.some.inj loaded]
  exact Array.size_pos_iff.mpr fun none => Bool.eq_false_iff.mp filled (Array.isEmpty_iff.mpr none)

/-- A packed row has the bits of its indices. -/
theorem width_eq {width : Nat} (found : format.rowByteWidth = .ok width) :
    width = (format.depth * format.columns + 7) / 8 := by
  have bits : format.bitsPerPixel = format.depth := by
    unfold bitsPerPixel
    rw [indexes.components]
  rw [(rowByteWidth_ok found).2, bits]

/-- All pixels lie within the row. -/
theorem byte_lt_width {x : Nat} (inside : x < format.columns) :
    x * format.depth / 8 < (format.depth * format.columns + 7) / 8 := by
  have some : 0 < format.depth := by
    have few := indexes.depth
    simp only [List.mem_cons, List.not_mem_nil, or_false] at few
    omega
  have next : (x + 1) * format.depth ≤ format.columns * format.depth :=
    Nat.mul_le_mul_right _ inside
  rw [Nat.succ_mul, Nat.mul_comm format.columns] at next
  omega

section

variable {image : PixelBuffer} (whole : image.Whole) {state : RowState (Unpacker PixelBuffer)}
  (ready : format.setUp image = .ok state)

include whole ready

variable {rows : List Bytes} {unpacker : Unpacker PixelBuffer}
  (handed : Handed state.consumer rows unpacker)

include handed

/-- **The pixels of the rows that were handed over are counted**, if they are beyond the
palette. -/
theorem clamped_of_handed :
    unpacker.clamped
      = (packedIndices format.columns format.depth rows).countP (palette.count ≤ ·) := by
  have setUp := (format.setUp_yields image).of_ok ready
  obtain ⟨layout, colors, -⟩ := indexes.expander_of_setUp ready
  obtain ⟨_, _, _, equipped⟩ := equipped_of_setUp whole ready
  have counted := Unpacker.clamped_eq_of_handed handed
    (fun rows => (packedIndices format.columns format.depth rows).countP (palette.count ≤ ·)) rfl
    fun rows row => by
      rw [packedIndices_concat, List.countP_append,
        Expander.clampedIn_of_indexed layout indexes.aligned, equipped.arranged.columns_eq, colors]
  rw [counted, setUp.fits.clamped, Nat.zero_add]

/-- **Each pixel of these rows has the colour of its index.** -/
theorem pixel_of_handed (few : rows.length ≤ format.rows) {x y : Nat} {row : Bytes}
    (inside : x < format.columns) (there : rows[y]? = some row) :
    unpacker.sink.pixel x y = (palette.colorOf (packedIndex row x format.depth)).samples := by
  have setUp := (format.setUp_yields image).of_ok ready
  obtain ⟨layout, colors, -⟩ := indexes.expander_of_setUp ready
  obtain ⟨_, _, _, equipped⟩ := equipped_of_setUp whole ready
  obtain ⟨among, rfl⟩ := List.getElem?_eq_some_iff.mp there
  have columns : state.consumer.expander.columns = state.consumer.sink.width := by
    rw [setUp.fits.sink_eq]
    exact setUp.fits.columns
  have space : state.consumer.expander.layout.colorSpace = state.consumer.sink.colorSpace := by
    rw [setUp.fits.sink_eq]
    exact setUp.fits.colorSpace
  have high : rows.length ≤ state.consumer.sink.height := by
    rw [setUp.fits.sink_eq]
    exact Nat.le_trans few (Nat.le_of_eq setUp.height.symm)
  have room : state.consumer.sink.width * rows.length * state.consumer.sink.colorSpace.components
      ≤ state.consumer.sink.pixels.size := by
    rw [equipped.whole.size]
    exact Nat.mul_le_mul_right _ (Nat.mul_le_mul_left _ high)
  have shown := Unpacker.pixel_of_handed handed columns space room
    (Nat.lt_of_lt_of_eq inside equipped.columns_eq.symm) among
  rw [← space, layout] at shown
  rw [shown, ← colors, ← packedSample_eq_packedIndex _ (indexes.aligned x)]
  exact Expander.samples_colorOf layout _ _

end

end Indexes

variable {format : FrameFormat} {palette : Palette}

/-- **Clamping is counted exactly, and only for pixels.** Whatever the source, the stop and the
compression, and however the frame ended: as many indices are clamped as pixels of its packed rows
are beyond the palette, and these rows are committed. Each of their pixels has the colour of its
index, or the last colour if its index has none. A pixel that was filled up has the index zero,
so it is not counted.

The image may have been decoded into before, and what it shows may be anything: the frame that is
decoded into it next counts the same. -/
theorem decode_clamps {σ τ : Type} [ByteSource σ] [ByteSource τ]
    (indexes : format.Indexes palette) {image : PixelBuffer} (whole : image.Whole) (source : σ)
    (stop : Stop) :
    let decoded := format.decode source image stop
    let rows := format.packedRows source image stop
    let width := (format.depth * format.columns + 7) / 8
    decoded.clamped = (packedIndices format.columns format.depth rows).countP (palette.count ≤ ·)
      ∧ decoded.sink.rowsCommitted = max image.rowsCommitted rows.length
      ∧ (∀ x y row, x < format.columns → rows[y]? = some row →
        let index := packedIndex row x format.depth
        (format.writtenBytes source image stop ≤ y * width + x * format.depth / 8 →
            index = 0 ∧ index < palette.count)
          ∧ ∃ entry, palette.get? (if index < palette.count then index else palette.count - 1)
              = some entry ∧ decoded.sink.pixel x y = entry.samples)
      ∧ ∀ (earlier : FrameFormat) (before : τ) (stop' : Stop),
        (format.decode source (earlier.decode before image stop').sink stop).clamped
          = decoded.clamped := by
  intro decoded rows width
  have again : ∀ (earlier : FrameFormat) (before : τ) (stop' : Stop),
      (format.decode source (earlier.decode before image stop').sink stop).clamped
        = decoded.clamped := fun earlier before stop' =>
    (decode_simulates (.refl σ) PixelBuffer.simulates_of_measures format rfl
      (earlier.decode_measures before image stop') stop).clamped
  cases ready : format.setUp image with
  | error err =>
    have left : decoded = { result := .error err, source, sink := image, stop, clamped := 0 } :=
      decode_of_error ready source stop
    have none : rows = [] := packedRows_of_error ready source stop
    refine ⟨?_, ?_, ?_, again⟩
    · rw [left, none]
      rfl
    · rw [left, none]
      exact (Nat.max_eq_left (Nat.zero_le _)).symm
    · intro x y row _ there
      rw [none] at there
      cases there
  | ok state =>
    have setUp := (format.setUp_yields image).of_ok ready
    obtain ⟨-, -, some⟩ := indexes.expander_of_setUp ready
    obtain ⟨few, ⟨unpacker, handed, sink, clamped⟩, filled⟩ :=
      decode_packedRows ready setUp.accepts source stop
    have width_eq : state.assembler.width = width := indexes.width_eq setUp.width
    have committed := (Unpacker.painted_of_handed handed).committed
    rw [setUp.fits.sink_eq, ← sink] at committed
    refine ⟨clamped.trans (indexes.clamped_of_handed whole ready handed), committed, ?_, again⟩
    intro x y row inside there index
    refine ⟨fun behind => ?_, _, palette.get?_of_pos some index, ?_⟩
    · -- the pixel lies in a byte of its row that was filled up
      have zero : index = 0 := by
        refine packedIndex_of_blank (indexes.aligned x) (filled y _ row there ?_ ?_)
        · rw [width_eq]
          exact indexes.byte_lt_width inside
        · rwa [width_eq]
      exact ⟨zero, zero ▸ some⟩
    · exact (congrArg (PixelBuffer.pixel · x y) sink).trans
        (indexes.pixel_of_handed whole ready handed few inside there)

/-- Four rows of three indices with four bits each, and two colours for them. -/
def fourRows : FrameFormat :=
  { columns := 3, rows := 4, depth := 4, model := .indexed, compression := .first
    palette := some (.ofRGB #[(0, 0, 0), (255, 255, 255)]) }

set_option maxRecDepth 4000 in
/-- A row has the indices 1, 2 and 3 and other bits behind them, and it is repeated. Of the next
one only the indices 2 and 5 are there. The palette has the colours 0 and 1, so two indices are
beyond it in each of the three rows. They are counted anew when the frame is decoded into its own
image. -/
theorem decode_clamps_fourRows :
    let source := Cursor.ofBytes #[2, 0x12, 0x3F, 0, 1, 1, 0x25]
    let image : PixelBuffer := ⟨3, 4, .rgb, Array.replicate 36 0, 0⟩
    let palette := Palette.ofRGB #[(0, 0, 0), (255, 255, 255)]
    let decoded := fourRows.decode source image .never
    fourRows.Indexes palette ∧ image.Whole
      ∧ decoded.result.toOption = some (.truncated 2)
      ∧ fourRows.packedRows source image .never
        = [#[0x12, 0x3F], #[0x12, 0x3F], #[0x25, 0], #[0, 0]]
      ∧ decoded.clamped = 6
      ∧ (fourRows.decode source decoded.sink .never).clamped = 6 := by
  have indexes : fourRows.Indexes (.ofRGB #[(0, 0, 0), (255, 255, 255)]) :=
    ⟨by decide, rfl, rfl, rfl⟩
  have whole : PixelBuffer.Whole ⟨3, 4, .rgb, Array.replicate 36 0, 0⟩ := ⟨rfl, by decide⟩
  intro source image palette decoded
  have rows : fourRows.packedRows source image .never
      = [#[0x12, 0x3F], #[0x12, 0x3F], #[0x25, 0], #[0, 0]] := by decide +kernel
  obtain ⟨counted, -, -, again⟩ := decode_clamps (τ := Cursor) indexes whole source .never
  rw [rows] at counted
  have six : decoded.clamped = 6 := counted.trans (by decide +kernel)
  exact ⟨indexes, whole, by decide +kernel, rows, six, (again fourRows source .never).trans six⟩

end FrameFormat

end WpgRaster
