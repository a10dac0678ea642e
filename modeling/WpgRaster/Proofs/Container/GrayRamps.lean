import WpgRaster.Proofs.Allocations
import WpgRaster.Proofs.Container.PaletteBytes
import WpgRaster.Proofs.Container.WellFormed
import WpgRaster.Proofs.Pixel.Grays

/-!
# Bitmaps that are shown in grays

The default colormap of level two is a ramp of grays. So a bitmap that no palette was loaded for
could as well have its indices taken for levels of gray, and a raster of levels is decoded in
another way: there is no colormap, and its image has a third of the samples. Both say the same
(`Decoder.decodeWithStop_grayRamp`), pixel by pixel and in how they end, whatever the raster holds
and wherever it breaks off. Neither can be short of memory, since the size of a bitmap is written
in two words of 16 bits (`Walk.measured_of_mem_handovers`).
-/

namespace WpgRaster

/-! ## Sizes in words -/

/-- **Bitmaps whose size fits two words of 16 bits.** -/
structure Bitmap.Measured (bitmap : Bitmap) : Prop where
  /-- The width fits one. -/
  width_lt : bitmap.width < 0x10000
  /-- So does the height. -/
  height_lt : bitmap.height < 0x10000

namespace Bitmap

/-- **There is always memory for the image** of such a bitmap. -/
theorem Measured.exists_make {bitmap : Bitmap} (measured : bitmap.Measured) (space : ColorSpace) :
    ∃ blank, PixelBuffer.make bitmap.width bitmap.height space = .ok blank := by
  have pixels : bitmap.width * bitmap.height ≤ 0xFFFF * 0xFFFF :=
    Nat.mul_le_mul (Nat.le_of_lt_succ measured.width_lt) (Nat.le_of_lt_succ measured.height_lt)
  have few : space.components ≤ 4 := by cases space <;> decide
  have samples : bitmap.width * bitmap.height * space.components ≤ 0xFFFF * 0xFFFF * 4 :=
    Nat.mul_le_mul pixels few
  have granted : Size.allocatable
      (bitmap.width * bitmap.height * space.components * PixelBuffer.sampleBytes) = true := by
    refine decide_eq_true ?_
    show _ * 2 < 0x1000000000000
    omega
  refine ⟨_, (PixelBuffer.make_of_lt ?_ ?_).trans (if_pos granted)⟩
  all_goals
    unfold Size.limit
    omega

variable {σ : Type} [ByteSource σ] {source source' : σ} {bitmap : Bitmap}

theorem readSize_lt {size : Nat × Nat} (read : readSize source = .ok size source') :
    size.1 < 0x10000 ∧ size.2 < 0x10000 := by
  obtain ⟨width, _, _, read⟩ := exists_of_bind_ok read
  obtain ⟨height, _, _, read⟩ := exists_of_bind_ok read
  dsimp only at read
  split at read
  · cases read
  · cases read
    exact ⟨width.toNat_lt, height.toNat_lt⟩

theorem measured_of_readPlain (read : readPlain source = .ok bitmap source') :
    bitmap.Measured := by
  obtain ⟨size, _, sized, read⟩ := exists_of_bind_ok read
  obtain ⟨_, _, _, read⟩ := exists_of_bind_ok read
  obtain ⟨_, _, _, read⟩ := exists_of_bind_ok read
  obtain ⟨_, _, _, read⟩ := exists_of_bind_ok read
  cases read
  exact ⟨(readSize_lt sized).1, (readSize_lt sized).2⟩

theorem measured_of_readPlaced (read : readPlaced source = .ok bitmap source') :
    bitmap.Measured := by
  obtain ⟨_, _, _, read⟩ := exists_of_bind_ok read
  obtain ⟨_, _, _, read⟩ := exists_of_bind_ok read
  obtain ⟨_, _, _, read⟩ := exists_of_bind_ok read
  obtain ⟨_, _, _, read⟩ := exists_of_bind_ok read
  obtain ⟨_, _, _, read⟩ := exists_of_bind_ok read
  obtain ⟨size, _, sized, read⟩ := exists_of_bind_ok read
  obtain ⟨_, _, _, read⟩ := exists_of_bind_ok read
  obtain ⟨_, _, _, read⟩ := exists_of_bind_ok read
  obtain ⟨_, _, _, read⟩ := exists_of_bind_ok read
  cases read
  exact ⟨(readSize_lt sized).1, (readSize_lt sized).2⟩

theorem measured_of_readCoded {transform : Transform}
    (read : readCoded transform source = .ok (some bitmap) source') : bitmap.Measured := by
  obtain ⟨size, _, sized, read⟩ := exists_of_bind_ok read
  obtain ⟨depthCode, _, _, read⟩ := exists_of_bind_ok read
  obtain ⟨compressionCode, _, _, read⟩ := exists_of_bind_ok read
  generalize compressionOf compressionCode = compression?, depthOf depthCode = depth? at read
  cases compression? with
  | none => cases read
  | some compression =>
    cases depth? with
    | none => cases read
    | some depth =>
      cases read
      exact ⟨(readSize_lt sized).1, (readSize_lt sized).2⟩

end Bitmap

namespace Walk

variable {σ : Type}

/-- A step on the source that went well. -/
theorem exists_of_onSource_ok {α : Type} {step : EStateM WpgError σ α} {walk walk' : Walk σ} {a : α}
    (ran : onSource step walk = .ok a walk') : ∃ source, step walk.source = .ok a source := by
  unfold onSource at ran
  split at ran
  · next source stepped =>
    cases ran
    exact ⟨source, stepped⟩
  · cases ran

variable [ByteSource σ] [LawfulByteSource σ] {plan : WalkPlan} {walk walk' : Walk σ}

/-- **A bitmap that is found has its size in words.** -/
theorem measured_of_scan {offset next : Nat} {bitmap : Bitmap}
    (scanned : scan plan offset walk = .ok (.bitmap bitmap next) walk') : bitmap.Measured := by
  obtain ⟨⟨type, body, length⟩, mid, -, -, among, inspected, -⟩ := scan_bitmap scanned
  cases level : plan.level with
  | one =>
    rw [level] at among inspected
    obtain rfl | rfl : type = 0x0B ∨ type = 0x14 := by
      simpa [Level.bitmapTypes, plainBitmapType, placedBitmapType] using among
    · obtain ⟨_, _, read, found⟩ := exists_of_bind_ok inspected
      cases found
      obtain ⟨_, read⟩ := exists_of_onSource_ok read
      exact Bitmap.measured_of_readPlain read
    · obtain ⟨_, _, read, found⟩ := exists_of_bind_ok inspected
      cases found
      obtain ⟨_, read⟩ := exists_of_onSource_ok read
      exact Bitmap.measured_of_readPlaced read
  | two =>
    rw [level] at among inspected
    obtain rfl : type = 0x0E := by
      simpa [Level.bitmapTypes, codedBitmapType] using among
    obtain ⟨_, _, -, read⟩ := exists_of_bind_ok inspected
    obtain ⟨_, read⟩ := exists_of_onSource_ok read
    exact Bitmap.measured_of_readCoded read

/-- So has every bitmap that is handed over. -/
theorem measured_of_mem_handovers {fuel offset : Nat} {records : List PaletteRecord}
    {handover : Handover σ} (among : handover ∈ handovers plan fuel offset records walk) :
    handover.bitmap.Measured := by
  induction fuel generalizing offset records walk with
  | zero => cases among
  | succ fuel ih =>
    obtain ⟨-, ⟨next, mid, scanned, among⟩ | ⟨bitmap, next, mid, scanned, -, among⟩⟩ :=
      mem_handovers_cases among
    · exact ih among
    · obtain rfl | ⟨walk', -, among⟩ := among
      · exact measured_of_scan scanned
      · exact ih among

end Walk

/-! ## The ramp of a bitmap -/

/-- **Without a palette there is a ramp of grays** at level two. -/
theorem Colormap.make_ramp {depth : Nat} (few : depth ∈ [2, 4, 8]) :
    ∃ palette, make .two (some Level.two.emptyPalette) depth = .ok (some palette)
      ∧ palette.Shows (Size.values depth) (defaultColor .two (Size.values depth)) := by
  have bits : 2 ≤ depth ∧ depth ≤ 8 := by
    have all : ∀ depth ∈ [2, 4, 8], 2 ≤ depth ∧ depth ≤ 8 := by decide
    exact all depth few
  have unloaded : ∀ palette ∈ some Level.two.emptyPalette, palette.isEmpty = false →
      Size.values depth ≤ palette.capacity := by
    rintro _ ⟨⟩ ⟨⟩
  obtain ⟨palette, made, shows, -⟩ := make_shows .two (by omega) bits.2 unloaded
  refine ⟨palette, made, ?_⟩
  rw [show (loadedColors (some Level.two.emptyPalette)).size = 0 from rfl, Nat.max_zero] at shows
  refine shows.congr fun i _ => ?_
  -- nothing is repaired at such a depth
  exact if_neg fun wrong => absurd wrong.1.1 (by omega)

namespace Bitmap

variable {bitmap : Bitmap}

/-- **The format of the raster if it holds levels of gray.** -/
def levels (bitmap : Bitmap) : FrameFormat :=
  FrameFormat.withCompression
    { columns := bitmap.width, rows := bitmap.height, depth := bitmap.depth, model := .gray }
    bitmap.compression

/-- **A bitmap without a palette** is set up with a ramp of grays and a coloured image. -/
theorem prepare_of_unloaded (measured : bitmap.Measured) (few : bitmap.depth ∈ [2, 4, 8]) :
    ∃ palette blank, bitmap.prepare .two Level.two.emptyPalette = .ok (some palette, blank)
      ∧ palette.Shows (Size.values bitmap.depth)
        (Colormap.defaultColor .two (Size.values bitmap.depth))
      ∧ PixelBuffer.make bitmap.width bitmap.height .rgb = .ok blank := by
  obtain ⟨palette, made, shows⟩ := Colormap.make_ramp few
  obtain ⟨blank, room⟩ := measured.exists_make .rgb
  have space : (bitmap.format (some palette)).colorSpace = .ok .rgb := by
    show colorSpaceOf bitmap.depth (modelOf bitmap.depth) = _
    unfold colorSpaceOf
    rw [resolve_modelOf few]
    rfl
  refine ⟨palette, blank, ?_, shows, room⟩
  unfold prepare
  rw [made]
  show ((bitmap.format (some palette)).colorSpace >>= fun space =>
    PixelBuffer.make bitmap.width bitmap.height space >>= fun blank =>
      pure (some palette, blank)) = _
  rw [space]
  show (PixelBuffer.make bitmap.width bitmap.height .rgb >>= fun blank =>
    pure (some palette, blank)) = _
  rw [room]
  rfl

/-- **Its raster is decoded as levels of gray are.** -/
theorem decode_levels {σ : Type} [ByteSource σ] (few : bitmap.depth ∈ [2, 4, 8])
    {palette : Palette} (shows : palette.Shows (Size.values bitmap.depth)
      (Colormap.defaultColor .two (Size.values bitmap.depth)))
    {colored gray : PixelBuffer} (grays : colored.Grays gray) (source : σ) (stop : Stop) :
    let decoded := (bitmap.format (some palette)).decode source colored stop
    let decoded' := bitmap.levels.decode source gray stop
    decoded.result = decoded'.result ∧ decoded.source = decoded'.source
      ∧ decoded.stop = decoded'.stop ∧ decoded.sink.Grays decoded'.sink := by
  have indexed : modelOf bitmap.depth = .indexed := by
    have all : ∀ depth ∈ [2, 4, 8], modelOf depth = .indexed := by decide
    exact all _ few
  have format : bitmap.levels
      = { bitmap.format (some palette) with model := .gray, palette := none } := rfl
  rw [format]
  exact FrameFormat.decode_grays rfl rfl indexed rfl few shows grays source stop none

end Bitmap

/-! ## Frames in grays -/

/-- **A status that tells how a raster ended.** -/
def FrameStatus.Tells : FrameStatus → Except RasterError Outcome → Prop
  | complete, result => result = .ok .complete
  | truncated rowsDecoded, result => result = .ok (.truncated rowsDecoded)
  | aborted cause, result => result = .error cause

theorem FrameStatus.tells_of_ofResult {options : Options} {result : Except RasterError Outcome}
    {status : FrameStatus} (kept : ofResult options result = .ok status) : status.Tells result := by
  unfold ofResult at kept
  split at kept
  · cases kept
    rfl
  · split at kept
    · cases kept
    · cases kept
      rfl
  · split at kept
    · cases kept
      rfl
    · cases kept

/-- What a bitmap is decoded into once it is set up, if no palette was in front of it. -/
theorem Walk.Since.decodeBitmap_of_unloaded {σ : Type} [ByteSource σ] {plan : WalkPlan}
    {walk : Walk σ} (since : Since plan.level [] walk) {bitmap : Bitmap} {colormap : Option Palette}
    {blank : PixelBuffer}
    (prepared : bitmap.prepare plan.level plan.level.emptyPalette = .ok (colormap, blank)) :
    let decoded := (bitmap.format colormap).decode walk.source blank walk.stop
    ∃ walk', decodeBitmap plan bitmap walk =
      match FrameStatus.ofResult plan.options decoded.result with
      | .error err => .error err walk'
      | .ok status => .ok ⟨bitmap, decoded.sink, colormap, status⟩ walk' := by
  intro decoded
  have same : decodeBitmap plan bitmap walk = decodeBitmap plan bitmap
      { walk with palette := plan.level.emptyPalette, paletteError := none } := by
    rw [since.decodeBitmap_eq, PaletteRecord.handed_nil]
    rfl
  rw [same, Walk.decodeBitmap_eq, prepared]
  exact ⟨_, rfl⟩

namespace Decoder

variable {σ : Type} [ByteSource σ] [LawfulByteSource σ] {decoder : Decoder σ} {stop : Stop}
  {handover : Handover σ}

/-- **A bitmap of level two that no palette was loaded for is gray.** Take its raster, of two, four
or eight bits, and decode it as levels of gray, from where it begins and with the same stop. If that
makes a frame of some status, which tells how the raster ended, then the bitmap becomes a frame of
that status. Each pixel of it has three samples that are the same, and they are the sample of the
pixel among the levels. If it makes none for an error, then the bitmap fails with that error. The
frames of a file are those of its bitmaps. -/
theorem decodeWithStop_grayRamp (among : handover ∈ decoder.handovers stop)
    (two : handover.plan.level = .two) (unloaded : handover.palettes = [])
    (few : handover.bitmap.depth ∈ [2, 4, 8]) :
    (∀ frames, (decoder.decodeWithStop stop).1.1 = .ok frames →
        frames.toList = (decoder.handovers stop).flatMap Handover.frames)
      ∧ ∃ blank, PixelBuffer.make handover.bitmap.width handover.bitmap.height .luma = .ok blank
        ∧ let gray := handover.bitmap.levels.decode handover.walk.source blank handover.walk.stop
          (∀ status, FrameStatus.ofResult decoder.options gray.result = .ok status →
            status.Tells gray.result
              ∧ ∃ frame, handover.frames = [frame] ∧ frame.bitmap = handover.bitmap
                ∧ frame.status = status
                ∧ frame.pixels.width = handover.bitmap.width
                ∧ frame.pixels.height = handover.bitmap.height
                ∧ ∀ x < handover.bitmap.width, ∀ y < handover.bitmap.height,
                  ∃ sample, gray.sink.pixel x y = [sample]
                    ∧ frame.pixels.pixel x y = [sample, sample, sample])
          ∧ ∀ err, FrameStatus.ofResult decoder.options gray.result = .error err →
            handover.frames = []
              ∧ ∃ walk', Walk.decodeBitmap handover.plan handover.bitmap handover.walk
                = .error err walk' := by
  refine ⟨fun frames => frames_of_handovers, ?_⟩
  have handsOver := handsOver_of_mem among
  have measured : handover.bitmap.Measured := by
    obtain ⟨_, _, _, _, among⟩ := exists_of_mem_handovers among
    exact Walk.measured_of_mem_handovers among
  have since := handsOver.since
  rw [unloaded] at since
  obtain ⟨palette, colored, prepared, shows, made⟩ := Bitmap.prepare_of_unloaded measured few
  obtain ⟨blank, made'⟩ := measured.exists_make .luma
  rw [← two] at prepared
  obtain ⟨walk', decoded⟩ := since.decodeBitmap_of_unloaded prepared
  obtain ⟨result, -, -, grays⟩ := Bitmap.decode_levels few shows (.of_make made made')
    handover.walk.source handover.walk.stop
  rw [handsOver.options, result] at decoded
  refine ⟨blank, made', fun status kept => ⟨FrameStatus.tells_of_ofResult kept, ?_⟩,
    fun err failed => ?_⟩
  · rw [kept] at decoded
    obtain ⟨-, width, height, -⟩ := Walk.decodeBitmap_ok decoded
    refine ⟨_, ?_, rfl, rfl, width, height, fun x inside y among => ?_⟩
    · unfold Handover.frames Walk.framesOf
      rw [decoded]
    · exact grays.pixel_eq (grays.width ▸ width ▸ inside) (grays.height ▸ height ▸ among)
  · rw [failed] at decoded
    refine ⟨?_, walk', decoded⟩
    unfold Handover.frames Walk.framesOf
    rw [decoded]

end Decoder

/-- A bitmap of level two, which has a row of four pixels of two bits, each another one. -/
def Bytes.codedLevels : Bytes := #[0, 0x0E, 0, 7, 4, 0, 1, 0, 2, 0, 0x1B]

namespace Decoder

set_option maxRecDepth 4000 in
/-- The four levels of two bits are black, two grays and white. -/
theorem decodeWithStop_grayRamp_fourLevels :
    let decoder : Decoder Cursor := { source := .ofBytes (Bytes.codedHeader ++ Bytes.codedLevels) }
    imagesOf decoder.decode.1 = [[0, 0, 0, 0x55, 0x55, 0x55, 0xAA, 0xAA, 0xAA, 0xFF, 0xFF, 0xFF]]
      ∧ ∃ handover ∈ decoder.handovers .never, ∃ frame, handover.frames = [frame]
        ∧ frame.status = .complete
        ∧ ∀ x < 4, ∃ sample, frame.pixels.pixel x 0 = [sample, sample, sample] := by
  intro decoder
  have shown : imagesOf decoder.decode.1
      = [[0, 0, 0, 0x55, 0x55, 0x55, 0xAA, 0xAA, 0xAA, 0xFF, 0xFF, 0xFF]] := by decide +kernel
  have shape : (decoder.handovers .never).map (fun handover =>
      ((handover.plan.level, handover.palettes.length, handover.bitmap.depth),
        (handover.bitmap.width, handover.bitmap.height), handover.frames.map (·.status)))
      = [((.two, 0, 2), (4, 1), [.complete])] := by decide +kernel
  obtain ⟨handover, rest, handovers, shape, -⟩ := List.map_eq_cons_iff.mp shape
  simp only [Prod.mk.injEq] at shape
  obtain ⟨⟨two, unloaded, depth⟩, ⟨width, height⟩, statuses⟩ := shape
  have among : handover ∈ decoder.handovers .never := handovers ▸ List.mem_cons_self
  obtain ⟨-, blank, -, kept, failed⟩ := decodeWithStop_grayRamp among two
    (List.length_eq_zero_iff.mp unloaded) (by rw [depth]; decide)
  cases ended : FrameStatus.ofResult decoder.options
      (handover.bitmap.levels.decode handover.walk.source blank handover.walk.stop).result with
  | error err =>
    rw [(failed err ended).1] at statuses
    cases statuses
  | ok status =>
    obtain ⟨-, frame, frames, -, -, -, -, gray⟩ := kept status ended
    rw [frames] at statuses
    refine ⟨shown, handover, among, frame, frames, List.head_eq_of_cons_eq statuses, ?_⟩
    intro x inside
    obtain ⟨sample, -, same⟩ := gray x (width ▸ inside) 0 (height ▸ Nat.one_pos)
    exact ⟨sample, same⟩

end Decoder

end WpgRaster
