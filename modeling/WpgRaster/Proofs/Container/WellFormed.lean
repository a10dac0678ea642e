import WpgRaster.Proofs.Container.Handovers
import WpgRaster.Proofs.Frame.Outcome
import WpgRaster.Proofs.Pixel.Indices

/-!
# Well-formed frames

A header can claim any size and any depth, and a raster can end anywhere. Still every
frame that is delivered is well formed (`Frame.WellFormed`): it is within the limits, it
has all its rows, and its colormap has a color for each index that its rows may hold
(`Decoder.decode_wellFormed`). It takes three things: what is checked before a raster is
read, that a colormap is filled up (`Colormap.of_make`), and that rows which did not come
from the file are written all the same (`FrameFormat.decode_interprets`).
-/

namespace WpgRaster

namespace Bitmap

/-- The measures of the packed rows. -/
def shape (bitmap : Bitmap) : Shape :=
  { width := (bitmap.depth * bitmap.width + 7) / 8
    rows := bitmap.height
    paired := bitmap.compression == .second }

/-- **The packed rows that a raster says.** Those that it ends in front of are zero. -/
def packedRows (bitmap : Bitmap) (raster : List UInt8) : List Bytes :=
  (bitmap.compression.interpret bitmap.shape raster).1.frame bitmap.shape

end Bitmap

/-- **A well-formed frame** of a raster, under some options. -/
structure Frame.WellFormed (options : Options) (raster : List UInt8) (frame : Frame) : Prop where
  /-- There are columns. -/
  width_pos : 1 ≤ frame.bitmap.width
  /-- There are not too many. -/
  width_le : frame.bitmap.width ≤ options.maxWidth
  /-- There are rows. -/
  height_pos : 1 ≤ frame.bitmap.height
  /-- There are not too many. -/
  height_le : frame.bitmap.height ≤ options.maxHeight
  /-- The depth is one of six. -/
  supported : frame.bitmap.depth ∈ Bitmap.supportedDepths
  /-- The image has the size of the bitmap. -/
  measures : frame.pixels.width = frame.bitmap.width ∧ frame.pixels.height = frame.bitmap.height
  /-- Pixels of 1 and of 16 bits are gray, all others have a color. -/
  colorSpace : frame.pixels.colorSpace
    = if frame.bitmap.depth = 1 ∨ frame.bitmap.depth = 16 then .luma else .rgb
  /-- All samples are there. -/
  size : frame.pixels.pixels.size
    = frame.bitmap.width * frame.bitmap.height * frame.pixels.colorSpace.components
  /-- All rows are committed, wherever they came from. -/
  committed : frame.pixels.rowsCommitted = frame.bitmap.height
  /-- Bitmaps of less than 16 bits have a colormap. -/
  colormap : frame.colormap.isSome ↔ frame.bitmap.depth < 16
  /-- It has a color for every sample. -/
  colors : ∀ palette ∈ frame.colormap, Size.values frame.bitmap.depth ≤ palette.count
  /-- A pixel has the color that its index selects. -/
  selected : frame.bitmap.depth ∈ [2, 4, 8] → ∀ palette ∈ frame.colormap,
    ∀ x < frame.bitmap.width, ∀ y < frame.bitmap.height,
      ∃ row entry, (frame.bitmap.packedRows raster)[y]? = some row
        ∧ palette.get? (packedIndex row x frame.bitmap.depth) = some entry
        ∧ frame.pixels.pixel x y = entry.samples

/-- Indices have as many bits as the depth says. -/
theorem Layout.eq_of_resolve_indexed {depth bits : Nat} {model : ColorModel}
    (resolved : resolve depth model = .ok (.indexed bits)) : bits = depth := by
  unfold resolve at resolved
  split at resolved
  all_goals cases resolved <;> rfl

namespace Bitmap

variable {bitmap : Bitmap}

/-- Any other depth is reported. -/
theorem colorSpaceOf_of_unsupported {depth : Nat} (unsupported : depth ∉ supportedDepths) :
    colorSpaceOf depth (modelOf depth) = .error (.unsupportedDepth depth) := by
  have none : Layout.resolve depth (modelOf depth) = .error (.unsupportedDepth depth) := by
    rw [mem_supportedDepths] at unsupported
    unfold Layout.resolve modelOf
    split
    all_goals first | rfl | omega
  unfold colorSpaceOf
  rw [none]
  rfl

/-- **Only the supported depths have a colour space.** -/
theorem colorSpace?_eq_some {space : ColorSpace} (known : bitmap.colorSpace? = some space) :
    bitmap.depth ∈ supportedDepths
      ∧ space = if bitmap.depth = 1 ∨ bitmap.depth = 16 then .luma else .rgb := by
  unfold colorSpace? at known
  generalize bitmap.depth = depth at known
  by_cases supported : depth ∈ supportedDepths
  · refine ⟨supported, ?_⟩
    obtain rfl | rfl | rfl | rfl | rfl | rfl := mem_supportedDepths.mp supported
    all_goals
      cases known
      rfl
  · rw [colorSpaceOf_of_unsupported supported] at known
    cases known

/-- Pixels of 2, 4 and 8 bits are indices. -/
theorem resolve_modelOf {depth : Nat} (few : depth ∈ [2, 4, 8]) :
    Layout.resolve depth (modelOf depth) = .ok (.indexed depth) := by
  simp only [List.mem_cons, List.not_mem_nil, or_false] at few
  obtain rfl | rfl | rfl := few
  all_goals rfl

/-- The frame of a bitmap has the shape that its header says. -/
theorem shape_of_ready {colormap : Option Palette} {blank : PixelBuffer}
    {rows : RowState (Unpacker PixelBuffer)}
    (ready : (bitmap.format colormap).Ready blank rows) : rows.assembler.shape = bitmap.shape := by
  have width := ready.width
  unfold FrameFormat.rowByteWidth at width
  split at width
  · next wide found =>
    cases width
    obtain ⟨bits, product, sum⟩ := Option.bind_eq_some_iff.mp found
    obtain ⟨rfl, -⟩ := Size.mul?_eq_some.mp product
    obtain ⟨padded, sum, whole⟩ := Option.bind_eq_some_iff.mp sum
    obtain ⟨rfl, -⟩ := Size.add?_eq_some.mp sum
    have columns : (bitmap.depth * bitmap.width + 7) / 8 = rows.assembler.width :=
      Option.some.inj whole
    unfold RowAssembler.shape shape
    rw [columns, ready.rows_eq, ready.paired]
    rfl
  · cases width

/-! ## Decoding a bitmap -/

variable {level : Level} {loaded : Palette} {colormap : Option Palette} {blank : PixelBuffer}
  {rows : RowState (Unpacker PixelBuffer)}

/-- **A frame is painted row by row**, whatever its raster is short of: an error that
leaves a frame behind comes when its rows are there. -/
theorem exists_of_kept {options : Options} {status : FrameStatus} {source : Cursor} {stop : Stop}
    (silent : stop.Silent)
    (kept : FrameStatus.ofResult options
      ((bitmap.format colormap).decode source blank stop).result = .ok status) :
    ∃ rows, (bitmap.format colormap).setUp blank = .ok rows
      ∧ ∃ unpacker, Handed rows.consumer (bitmap.packedRows source.rest) unpacker
        ∧ ((bitmap.format colormap).decode source blank stop).sink = unpacker.sink
        ∧ ((bitmap.format colormap).decode source blank stop).clamped = unpacker.clamped := by
  cases ready : (bitmap.format colormap).setUp blank with
  | error err =>
    -- what fails before a raster is read leaves no frame behind
    have quiet := (((bitmap.format colormap).setUp_yields blank).of_error ready).abortsFrame_eq
    rw [FrameFormat.decode_of_error ready] at kept
    unfold FrameStatus.ofResult at kept
    dsimp only at kept
    rw [quiet] at kept
    cases kept
  | ok rows =>
    have setUp := ((bitmap.format colormap).setUp_yields blank).of_ok ready
    obtain ⟨-, unpacker, handed, sink, clamped⟩ :=
      FrameFormat.decode_interprets ready setUp.accepts silent source
    refine ⟨rows, rfl, unpacker, ?_, sink, clamped⟩
    rw [shape_of_ready setUp] at handed
    exact handed

/-- **Rows of indices** are those of bitmaps of few bits, and they are expanded with the
colormap of the bitmap. -/
theorem expander_of_setUp (ready : (bitmap.format colormap).setUp blank = .ok rows) :
    (bitmap.depth ∈ [2, 4, 8] → rows.consumer.expander.layout = .indexed bitmap.depth)
      ∧ ∀ bits, rows.consumer.expander.layout = .indexed bits →
        bits = bitmap.depth ∧ colormap = some rows.consumer.expander.palette := by
  obtain ⟨-, built⟩ := FrameFormat.exists_of_setUp_ok ready rfl rfl
  obtain ⟨resolved, found⟩ := Unpacker.ofDepth_ok built
  refine ⟨fun few => Except.ok.inj (resolved.symm.trans (resolve_modelOf few)), ?_⟩
  intro bits layout
  rw [layout] at resolved found
  refine ⟨Layout.eq_of_resolve_indexed resolved, ?_⟩
  exact (Unpacker.paletteFor_indexed found).1

section

variable {raster : List UInt8} {unpacker : Unpacker PixelBuffer}
  (prepared : bitmap.prepare level loaded = .ok (colormap, blank))
  (ready : (bitmap.format colormap).setUp blank = .ok rows)

include prepared ready

/-- **The palette that indices refer to** has a colour for each of them. -/
theorem colors_of_setUp (bits : Nat) (layout : rows.consumer.expander.layout = .indexed bits) :
    Size.values bits ≤ rows.consumer.expander.palette.count := by
  obtain ⟨space, made, -⟩ := exists_of_prepare_ok prepared
  obtain ⟨rfl, colormap_eq⟩ := (expander_of_setUp ready).2 bits layout
  have supported := mem_supportedDepths.mp (colorSpace?_eq_some (prepare_ok prepared).2.2).1
  exact (Colormap.of_make made (by omega)).2 _ colormap_eq

/-- **The image that was painted**: it has the measures of the bitmap, and all rows of it
are committed. -/
theorem image_of_handed (handed : Handed rows.consumer (bitmap.packedRows raster) unpacker) :
    (unpacker.sink.width = bitmap.width ∧ unpacker.sink.height = bitmap.height)
      ∧ unpacker.sink.colorSpace
        = (if bitmap.depth = 1 ∨ bitmap.depth = 16 then .luma else .rgb)
      ∧ unpacker.sink.pixels.size
        = bitmap.width * bitmap.height * unpacker.sink.colorSpace.components
      ∧ unpacker.sink.rowsCommitted = bitmap.height := by
  obtain ⟨space, -, -, made⟩ := exists_of_prepare_ok prepared
  obtain ⟨width, height, spaced⟩ := prepare_ok prepared
  have sink : rows.consumer.sink = blank :=
    (((bitmap.format colormap).setUp_yields blank).of_ok ready).fits.sink_eq
  obtain ⟨width', height', space'⟩ := Unpacker.measures_of_handed handed
  have painted := Unpacker.painted_of_handed handed
  have committed := painted.committed
  have length : (bitmap.packedRows raster).length = bitmap.height := Sheet.length_frame _
  rw [sink] at width' height' space'
  rw [sink, (PixelBuffer.of_make made).2, length, Nat.zero_max] at committed
  refine ⟨⟨width'.trans width, height'.trans height⟩, ?_, ?_, committed⟩
  · rw [space', (colorSpace?_eq_some spaced).2]
  · rw [painted.size, sink, space', (PixelBuffer.size_of_make made).1,
      (PixelBuffer.measures_of_make made).2.2]

/-- **The pixels that were painted** have the colors that their indices select. -/
theorem pixel_of_handed (handed : Handed rows.consumer (bitmap.packedRows raster) unpacker)
    (few : bitmap.depth ∈ [2, 4, 8]) {palette : Palette} (has : palette ∈ colormap) {x y : Nat}
    (inside : x < bitmap.width) (among : y < bitmap.height) :
    ∃ row entry, (bitmap.packedRows raster)[y]? = some row
      ∧ palette.get? (packedIndex row x bitmap.depth) = some entry
      ∧ unpacker.sink.pixel x y = entry.samples := by
  have layout := (expander_of_setUp ready).1 few
  obtain rfl : palette = rows.consumer.expander.palette :=
    Option.some.inj (has.symm.trans ((expander_of_setUp ready).2 _ layout).2)
  obtain ⟨space, -, -, made⟩ := exists_of_prepare_ok prepared
  have size := (PixelBuffer.size_of_make made).1
  obtain ⟨width, -, spaced⟩ := PixelBuffer.measures_of_make made
  have fits := (((bitmap.format colormap).setUp_yields blank).of_ok ready).fits
  have samples : rows.consumer.expander.layout.colorSpace = rows.consumer.sink.colorSpace := by
    rw [fits.sink_eq]
    exact fits.colorSpace
  have columns : rows.consumer.expander.columns = rows.consumer.sink.width := by
    rw [fits.sink_eq]
    exact fits.columns
  have length : (bitmap.packedRows raster).length = bitmap.height := Sheet.length_frame _
  have room : rows.consumer.sink.pixels.size = rows.consumer.sink.width
      * (bitmap.packedRows raster).length * rows.consumer.sink.colorSpace.components := by
    rw [fits.sink_eq, size, width, length, spaced]
  have inside' : x < rows.consumer.sink.width := by
    rw [fits.sink_eq, width]
    exact inside
  have among' : y < (bitmap.packedRows raster).length := Nat.lt_of_lt_of_eq among length.symm
  have shown := Unpacker.pixel_of_handed handed columns samples (Nat.le_of_eq room.symm)
    inside' among'
  obtain ⟨entry, found, colored⟩ := Expander.samples_of_indexed layout
    (colors_of_setUp prepared ready _ layout) (bitmap.packedRows raster)[y] x
  rw [packedSample_eq_packedIndex _ (aligned_of_mem (List.mem_cons_of_mem 1 few) x)] at found
  rw [← samples, layout] at shown
  exact ⟨_, entry, List.getElem?_eq_getElem among', found, shown.trans colored⟩

end

end Bitmap

namespace Walk

variable {plan : WalkPlan} {bitmap : Bitmap} {walk walk' : Walk Cursor} {frame : Frame}

/-- A bitmap that nothing is said against is within the limits. -/
theorem limits_of_bitmapFault? {options : Options} (sound : bitmapFault? options bitmap = none) :
    bitmap.width ≤ options.maxWidth ∧ bitmap.height ≤ options.maxHeight := by
  unfold bitmapFault? at sound
  split at sound
  · cases sound
  · split at sound
    · cases sound
    · split at sound
      · cases sound
      · omega

/-- **A bitmap that becomes a frame** becomes a well-formed one, and no index of it was
too large for the colormap. -/
theorem decodeBitmap_wellFormed (silent : walk.stop.Silent)
    (sound : bitmapFault? plan.options bitmap = none)
    (decoded : decodeBitmap plan bitmap walk = .ok frame walk') :
    frame.bitmap = bitmap ∧ frame.WellFormed plan.options walk.source.rest
      ∧ ∃ blank, bitmap.prepare plan.level walk.palette = .ok (frame.colormap, blank)
        ∧ let painted := (bitmap.format frame.colormap).decode walk.source blank walk.stop
          painted.sink = frame.pixels ∧ painted.clamped = 0 := by
  obtain ⟨-, colormap, blank, status, prepared, kept, rfl⟩ := exists_of_decodeBitmap_ok decoded
  obtain ⟨rows, ready, unpacker, handed, sink, clamped⟩ := Bitmap.exists_of_kept silent kept
  have setUp := ((bitmap.format colormap).setUp_yields blank).of_ok ready
  have columns : bitmap.width ≠ 0 := (FrameFormat.exists_of_setUp_ok ready rfl rfl).1
  have height : bitmap.height ≠ 0 := setUp.some
  obtain ⟨width_le, height_le⟩ := limits_of_bitmapFault? sound
  have supported := (Bitmap.colorSpace?_eq_some (Bitmap.prepare_ok prepared).2.2).1
  have some := Bitmap.mem_supportedDepths.mp supported
  obtain ⟨space, made, -⟩ := Bitmap.exists_of_prepare_ok prepared
  obtain ⟨colormap_iff, colors⟩ := Colormap.of_make made (by omega)
  obtain ⟨measures, colorSpace, size, committed⟩ := Bitmap.image_of_handed prepared ready handed
  refine ⟨rfl, ?_, blank, prepared, rfl, ?_⟩
  · rw [sink]
    exact
      { width_pos := Nat.one_le_iff_ne_zero.mpr columns
        width_le
        height_pos := Nat.one_le_iff_ne_zero.mpr height
        height_le
        supported
        measures
        colorSpace
        size
        committed
        colormap := colormap_iff
        colors
        selected := fun few palette has x inside y among =>
          Bitmap.pixel_of_handed prepared ready handed few has inside among }
  · dsimp only
    rw [clamped, Unpacker.clamped_of_handed handed, setUp.fits.clamped]
    exact Expander.clampedIn_of_colors (Bitmap.colors_of_setUp prepared ready)

end Walk

namespace Decoder

/-- **Every frame that is delivered is well formed**: it is the frame of a bitmap that was
handed over, and its raster is what the file has there. No index of it was too large for
the colormap. -/
theorem decode_wellFormed (decoder : Decoder Cursor) {frames : Array Frame}
    (decoded : decoder.decode.1 = .ok frames) :
    ∀ frame ∈ frames, ∃ handover ∈ decoder.handovers .never,
      handover.walk.source.bytes = decoder.source.bytes
        ∧ frame.bitmap = handover.bitmap
        ∧ frame.WellFormed decoder.options handover.walk.source.rest
        ∧ ∃ blank, handover.bitmap.prepare handover.plan.level handover.walk.palette
              = .ok (frame.colormap, blank)
          ∧ let painted := (handover.bitmap.format frame.colormap).decode handover.walk.source
              blank handover.walk.stop
            painted.sink = frame.pixels ∧ painted.clamped = 0 := by
  intro frame shown
  have delivered : frame ∈ frames.toList := shown.val
  rw [frames_of_handovers decoded] at delivered
  obtain ⟨handover, among, shown⟩ := List.mem_flatMap.mp delivered
  have handsOver := handsOver_of_mem among
  have silent : handover.walk.stop.Silent := fun asked => by rw [handsOver.answer]; rfl
  obtain ⟨walk', made⟩ := Handover.exists_of_mem_frames shown
  obtain ⟨bitmap, wellFormed, painted⟩ :=
    Walk.decodeBitmap_wellFormed silent handsOver.sound made
  rw [handsOver.options] at wellFormed
  exact ⟨handover, among, Cursor.sameFile_iff.mp handsOver.file, bitmap, wellFormed, painted⟩

set_option maxRecDepth 4000 in
/-- The pixels of a row have the colours of a palette, each another one: the indices 0 to
3 are the bits of one byte. -/
theorem decode_wellFormed_coloredRow :
    let decoder : Decoder Cursor := { source := .ofBytes Bytes.coloredRow }
    ∃ frames, decoder.decode.1 = .ok frames ∧ ∃ frame ∈ frames,
      (List.range 4).map (frame.pixels.pixel · 0)
          = [[0xFFFF, 0, 0], [0, 0xFFFF, 0], [0, 0, 0xFFFF], [0xFFFF, 0xFFFF, 0xFFFF]]
        ∧ ∃ handover ∈ decoder.handovers .never,
          handover.bitmap.packedRows handover.walk.source.rest = [#[0x1B]]
            ∧ frame.WellFormed decoder.options handover.walk.source.rest := by
  intro decoder
  have colors : decoder.decode.1.toOption.map (·.toList.map fun frame =>
      (List.range 4).map (frame.pixels.pixel · 0)) = some
        [[[0xFFFF, 0, 0], [0, 0xFFFF, 0], [0, 0, 0xFFFF], [0xFFFF, 0xFFFF, 0xFFFF]]] := by
    decide +kernel
  have packed : (decoder.handovers .never).map (fun handover =>
      handover.bitmap.packedRows handover.walk.source.rest) = [[#[0x1B]]] := by
    decide +kernel
  cases decoded : decoder.decode.1 with
  | error err =>
    rw [decoded] at colors
    cases colors
  | ok frames =>
    rw [decoded] at colors
    obtain ⟨frame, rest, listed, colors, -⟩ := List.map_eq_cons_iff.mp (Option.some.inj colors)
    have shown : frame ∈ frames := ⟨listed ▸ List.mem_cons_self⟩
    obtain ⟨handover, among, -, -, wellFormed, -⟩ := decode_wellFormed decoder decoded frame shown
    have row := List.mem_map_of_mem among
      (f := fun handover => handover.bitmap.packedRows handover.walk.source.rest)
    rw [packed] at row
    exact ⟨frames, rfl, frame, shown, colors, handover, among, List.mem_singleton.mp row,
      wellFormed⟩

end Decoder

end WpgRaster
