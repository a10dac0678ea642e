import WpgRaster.Proofs.Color.Quantum
import WpgRaster.Proofs.Container.Colormaps
import WpgRaster.Proofs.Frame.Recording
import WpgRaster.Proofs.Pixel.Rows

/-!
# Colours that are grays

A raster of gray levels and one of indices into a palette of grays say the same, but not by the
same path: a level is scaled to a sample at once, and an index selects a colour whose three samples
were scaled from bytes. The two meet in a ramp of two, four or eight bits, since the largest level
of so many bits divides the largest byte, which divides the quantum
(`Colormap.quantumOfByte_rampLevel`).

So an unpacker for the indices does to a coloured image what one for the levels does to a gray
image, with each sample there three times (`Threefold`). This is kept row by row, and nothing else
of a raster depends on what its samples stand for (`FrameFormat.decode_grays`).
-/

namespace WpgRaster

/-! ## A ramp of grays -/

namespace Colormap

/-- **A gray of a ramp is what a table shows for its level**, if the largest level of so many bits
divides the largest byte. -/
theorem quantumOfByte_rampLevel {table : QuantumTable} (built : table.Built)
    (divides : table.maxRaw ∣ 255) {level : Nat} (inside : level ≤ table.maxRaw) :
    quantumOfByte (rampLevel (Size.values table.depth) level) = table.get level := by
  obtain ⟨step, whole⟩ := divides
  have pos := built.maxRaw_pos
  have product : level * 255 = table.maxRaw * (level * step) := by
    rw [whole, Nat.mul_left_comm]
  have small : level * step ≤ 255 := by
    rw [whole]
    exact Nat.mul_le_mul_right _ inside
  have byte : rampLevel (Size.values table.depth) level = (level * step).toUInt8 := by
    show (level * 255 / max table.maxRaw 1).toUInt8 = _
    rw [Nat.max_eq_left pos, product, Nat.mul_div_cancel_left _ pos]
  -- the quotient by the largest level leaves nothing over
  have exact : rescale level table.maxRaw = level * step * 257 := by
    have twice : table.maxRaw * (level * step * 257) = level * quantumMax := by
      rw [← Nat.mul_assoc, ← product, Nat.mul_assoc]
      rfl
    rw [rescale_eq_nearestQuotient]
    exact Near.eq_nearestQuotient ⟨by omega, by omega⟩
  refine UInt16.toNat_inj.mp ?_
  rw [built.toNat_get, Nat.min_eq_left inside, exact, byte]
  unfold quantumOfByte
  rw [UInt16.toNat_mul, UInt8.toNat_toUInt16, Nat.toUInt8_eq, UInt8.toNat_ofNat_of_lt' (by
    show level * step < 256
    omega)]
  exact Nat.mod_eq_of_lt (by show level * step * 257 < 65536; omega)

end Colormap

/-! ## Samples that are there three times -/

/-- **Samples that are there three times**, one next to the other. -/
def Threefold (colored gray : Array UInt16) : Prop :=
  ∀ i, ∀ c < 3, colored[3 * i + c]? = gray[i]?

namespace Threefold

variable {colored gray : Array UInt16}

/-- There are three times as many. -/
theorem size_eq (threefold : Threefold colored gray) : colored.size = 3 * gray.size := by
  have beyond : ∀ i, colored.size ≤ i ↔ gray.size ≤ i / 3 := by
    intro i
    have same := threefold (i / 3) (i % 3) (Nat.mod_lt i (by decide))
    rw [Nat.div_add_mod] at same
    rw [← Array.getElem?_eq_none_iff, same, Array.getElem?_eq_none_iff]
  have behind := beyond (3 * gray.size)
  have last := beyond (3 * gray.size - 1)
  omega

/-- **What is overwritten alike is still there three times.** -/
theorem overwrite (threefold : Threefold colored gray) {samples samples' : Array UInt16}
    (written : Threefold samples samples') (offset : Nat) :
    Threefold (PixelBuffer.overwrite colored (3 * offset) samples.toList)
      (PixelBuffer.overwrite gray offset samples'.toList) := by
  have size := threefold.size_eq
  have length := written.size_eq
  intro i c among
  rw [PixelBuffer.getElem?_overwrite, PixelBuffer.getElem?_overwrite, Array.length_toList,
    Array.length_toList]
  by_cases here : i < gray.size ∧ offset ≤ i ∧ i < offset + samples'.size
  · rw [if_pos (by omega), if_pos here, Array.getElem?_toList, Array.getElem?_toList,
      show 3 * i + c - 3 * offset = 3 * (i - offset) + c by omega]
    exact written (i - offset) c among
  · rw [if_neg (by omega), if_neg here]
    exact threefold i c among

end Threefold

/-! ## Rows -/

/-- **Expanders for colours that are grays**, and for these grays. -/
structure Expander.Grays (colored gray : Expander) : Prop where
  /-- Rows have as many pixels. -/
  columns : colored.columns = gray.columns
  /-- The one makes colours. -/
  rgb : colored.layout.colorSpace = .rgb
  /-- The other one makes grays. -/
  luma : gray.layout.colorSpace = .luma
  /-- The samples of a colour are those of the gray. -/
  sample : ∀ row x, ∀ c < 3, colored.sample row x c = gray.sample row x 0

/-- **A row of grays is expanded to the same samples**, three times. -/
theorem Expander.Grays.expand {colored gray : Expander} (grays : colored.Grays gray)
    (row : Bytes) :
    Threefold (colored.expand row) (gray.expand row) := by
  have components : colored.layout.colorSpace.components = 3 := by rw [grays.rgb]; rfl
  have components' : gray.layout.colorSpace.components = 1 := by rw [grays.luma]; rfl
  have count : colored.sampleCount = gray.columns * 3 := by
    unfold sampleCount
    rw [components, grays.columns]
  have count' : gray.sampleCount = gray.columns := by
    unfold sampleCount
    rw [components', Nat.mul_one]
  intro x c among
  by_cases inside : x < gray.columns
  · have found := colored.getElem?_expand row (grays.columns ▸ inside) (components.symm ▸ among)
    have found' := gray.getElem?_expand row inside (components'.symm ▸ Nat.one_pos)
    rw [components, Nat.mul_comm, grays.sample row x c among] at found
    rw [components', Nat.mul_one, Nat.add_zero] at found'
    rw [found, found']
  · rw [Array.getElem?_eq_none, Array.getElem?_eq_none]
    · rw [size_expand, count']
      omega
    · rw [size_expand, count]
      omega

/-! ## Images -/

/-- **A coloured image whose colours are grays**, and the image of these grays. -/
structure PixelBuffer.Grays (colored gray : PixelBuffer) : Prop where
  /-- Rows have as many pixels. -/
  width : colored.width = gray.width
  /-- There are as many of them. -/
  height : colored.height = gray.height
  /-- The one has colours. -/
  rgb : colored.colorSpace = .rgb
  /-- The other one has grays. -/
  luma : gray.colorSpace = .luma
  /-- All samples of the one are there. -/
  whole : colored.Whole
  /-- So are those of the other one. -/
  whole' : gray.Whole
  /-- They are the same, three times. -/
  samples : Threefold colored.pixels gray.pixels
  /-- As many rows are committed. -/
  committed : colored.rowsCommitted = gray.rowsCommitted

namespace PixelBuffer

variable {colored gray : PixelBuffer}

/-- New images are both black. -/
theorem Grays.of_make {width height : Nat} (made : make width height .rgb = .ok colored)
    (made' : make width height .luma = .ok gray) : colored.Grays gray := by
  obtain ⟨rfl, rfl, rgb⟩ := measures_of_make made
  obtain ⟨width, height, luma⟩ := measures_of_make made'
  have whole := Whole.of_make made
  have whole' := Whole.of_make made'
  obtain ⟨black, committed⟩ := PixelBuffer.of_make made
  obtain ⟨black', committed'⟩ := PixelBuffer.of_make made'
  have size : colored.pixels.size = 3 * gray.pixels.size := by
    rw [whole.size, whole'.size, rgb, luma, width, height]
    exact (Nat.mul_comm _ 3).trans (congrArg (3 * ·) (Nat.mul_one _).symm)
  refine ⟨width.symm, height.symm, rgb, luma, whole, whole', fun i c among => ?_,
    committed.trans committed'.symm⟩
  by_cases inside : i < gray.pixels.size
  · have inside' : 3 * i + c < colored.pixels.size := by omega
    rw [Array.getElem?_eq_getElem inside, Array.getElem?_eq_getElem inside',
      black _ (Array.getElem_mem_toList inside'), black' _ (Array.getElem_mem_toList inside)]
  · rw [Array.getElem?_eq_none (by omega), Array.getElem?_eq_none (by omega)]

/-- **A row of grays is painted to both.** -/
theorem Grays.paint (grays : colored.Grays gray) (row : Nat) {samples samples' : Array UInt16}
    (written : Threefold samples samples') :
    PixelBuffer.Grays
      { colored.writeRow row samples with rowsCommitted := max colored.rowsCommitted (row + 1) }
      { gray.writeRow row samples' with rowsCommitted := max gray.rowsCommitted (row + 1) } where
  width := grays.width
  height := grays.height
  rgb := grays.rgb
  luma := grays.luma
  whole := (grays.whole.writeRow _ _).commit _
  whole' := (grays.whole'.writeRow _ _).commit _
  samples := by
    have offset : row * colored.stride = 3 * (row * gray.stride) := by
      rw [stride, stride, grays.width, grays.rgb, grays.luma,
        show ColorSpace.luma.components = 1 from rfl, Nat.mul_one, ← Nat.mul_assoc]
      exact Nat.mul_comm _ 3
    show Threefold (overwrite _ (row * colored.stride) _) (overwrite _ (row * gray.stride) _)
    rw [offset]
    exact grays.samples.overwrite written _
  committed := congrArg (max · (row + 1)) grays.committed

/-- **A pixel of the coloured image is gray**, and it is the pixel of the other image. -/
theorem Grays.pixel_eq (grays : colored.Grays gray) {x y : Nat} (inside : x < gray.width)
    (among : y < gray.height) :
    ∃ sample, gray.pixel x y = [sample] ∧ colored.pixel x y = [sample, sample, sample] := by
  have components : colored.colorSpace.components = 3 := by rw [grays.rgb]; rfl
  have components' : gray.colorSpace.components = 1 := by rw [grays.luma]; rfl
  have room : y * gray.width + x < gray.pixels.size := by
    have last := grays.whole'.row_inside among
    unfold stride at last
    rw [components', Nat.mul_one, Nat.succ_mul] at last
    omega
  have found := Array.getElem?_eq_getElem room
  generalize gray.pixels[y * gray.width + x] = sample at found
  have once : gray.pixel x y
      = (List.range gray.colorSpace.components).map fun _ => sample := by
    refine pixel_eq_map fun c few => ?_
    rw [components'] at few ⊢
    rw [Nat.lt_one_iff.mp few, Nat.mul_one, Nat.add_zero, found]
  have thrice : colored.pixel x y
      = (List.range colored.colorSpace.components).map fun _ => sample := by
    refine pixel_eq_map fun c few => ?_
    rw [components] at few ⊢
    rw [grays.width, Nat.mul_comm, grays.samples _ c few, found]
  rw [components'] at once
  rw [components] at thrice
  exact ⟨sample, once, thrice⟩

end PixelBuffer

/-! ## Unpackers -/

/-- **Unpackers for colours that are grays**, and for these grays. -/
structure Unpacker.Grays (colored gray : Unpacker PixelBuffer) : Prop where
  /-- Rows are expanded to the same samples. -/
  expander : colored.expander.Grays gray.expander
  /-- They go to images with the same samples. -/
  sink : colored.sink.Grays gray.sink
  /-- Rows have as many pixels as those of the images. -/
  columns : gray.expander.columns = gray.sink.width

/-- **Unpackers of that kind for rows whose samples can be counted.** A row of colours has three
times as many as one of grays, so more than a word can count perhaps, where a word still counts
these. -/
structure Unpacker.CountedGrays (colored gray : Unpacker PixelBuffer) : Prop
    extends Unpacker.Grays colored gray where
  /-- A word counts the samples of a row of colours. -/
  word : colored.expander.sampleCount < Size.limit

/-- **Such unpackers take and refuse the same rows.** -/
theorem Unpacker.consume_grays : ConsumerSimulates Unpacker.CountedGrays := by
  rintro row bytes colored gray ⟨⟨expander, sink, columns⟩, word⟩
  have count : colored.expander.sampleCount = colored.sink.stride := by
    unfold Expander.sampleCount PixelBuffer.stride
    rw [expander.rgb, sink.rgb, expander.columns, columns, sink.width]
  have count' : gray.expander.sampleCount = gray.sink.stride := by
    unfold Expander.sampleCount PixelBuffer.stride
    rw [expander.luma, sink.luma, columns]
  have word' : gray.expander.sampleCount < Size.limit := by
    refine Nat.lt_of_le_of_lt ?_ word
    unfold Expander.sampleCount
    rw [expander.rgb, expander.luma, expander.columns]
    exact Nat.mul_le_mul_left _ (by decide)
  show Corresponds _ (RowConsumer.consume row bytes colored) (RowConsumer.consume row bytes gray)
  rw [consume_eq, consume_eq, sink.height, if_neg (Nat.not_le.mpr word),
    if_neg (Nat.not_le.mpr word')]
  by_cases outside : gray.sink.height ≤ row
  · rw [if_pos outside, if_pos outside]
    exact .error ⟨⟨expander, sink, columns⟩, word⟩
  · rw [if_neg outside, if_neg outside, count, count', if_neg (Nat.lt_irrefl _),
      if_neg (Nat.lt_irrefl _)]
    have painted := sink.paint row (expander.expand bytes)
    exact .ok ⟨⟨expander, painted, columns⟩, word⟩

/-! ## Frames -/

/-- **Indices into a ramp and levels of gray** have the same samples, of two, four or eight bits. -/
theorem Expander.grays_of_ramp {depth : Nat} {palette : Palette} {scale : ComponentScale}
    (few : depth ∈ [2, 4, 8])
    (shows : palette.Shows (Size.values depth) (Colormap.defaultColor .two (Size.values depth)))
    (built : ComponentScale.build { depth } = .ok scale) (columns : Nat) (other : Palette) :
    Expander.Grays ⟨.indexed depth, columns, [scale], palette⟩
      ⟨.gray depth, columns, [scale], other⟩ where
  columns := rfl
  rgb := rfl
  luma := rfl
  sample row x c among := by
    obtain ⟨table, tabled, made⟩ := exists_of_except_bind built
    cases made
    obtain ⟨exact, rfl⟩ := QuantumTable.built_of_build tabled
    have divides : table.maxRaw ∣ 255 := by
      have all : ∀ depth ∈ [2, 4, 8], Size.values depth - 1 ∣ 255 := by decide
      exact all _ few
    have index : packedSample row x table.depth < Size.values table.depth :=
      packedSample_lt row x table.depth
    have shown := Colormap.quantumOfByte_rampLevel exact divides (Nat.le_sub_one_of_lt index)
    obtain ⟨entry, there, found⟩ :=
      Palette.lookup_of_lt (Nat.lt_of_lt_of_eq index shows.count_eq.symm)
    rw [shows.get?_eq _ index] at there
    cases there
    -- an unsigned sample is looked up as it is
    show _ = table.get (packedSample row x table.depth ^^^ 0)
    rw [Nat.xor_zero, ← shown]
    unfold Expander.sample
    dsimp only
    rw [found]
    obtain rfl | rfl | rfl : c = 0 ∨ c = 1 ∨ c = 2 := by omega
    all_goals rfl

/-- **Unpackers are made alike** for indices into a ramp and for levels of gray. -/
theorem Unpacker.ofDepth_grays {depth : Nat} {palette : Palette} {colored gray : PixelBuffer}
    (few : depth ∈ [2, 4, 8])
    (shows : palette.Shows (Size.values depth) (Colormap.defaultColor .two (Size.values depth)))
    (grays : colored.Grays gray) (columns : Nat) (other : Option Palette) :
    SameOutcome Unpacker.Grays (ofDepth columns depth .indexed (some palette) colored)
      (ofDepth columns depth .gray other gray) := by
  obtain ⟨indexed, leveled⟩ : Layout.resolve depth .indexed = .ok (.indexed depth)
      ∧ Layout.resolve depth .gray = .ok (.gray depth) := by
    simp only [List.mem_cons, List.not_mem_nil, or_false] at few
    obtain rfl | rfl | rfl := few
    all_goals exact ⟨rfl, rfl⟩
  have filled : palette.isEmpty = false := by
    have some : 0 < palette.count := shows.count_eq ▸ Size.values_pos depth
    exact Bool.eq_false_iff.mpr fun empty =>
      absurd (Array.isEmpty_iff_size_eq_zero.mp empty) (Nat.ne_of_gt some)
  have colors : paletteFor (.indexed depth) depth (some palette) = .ok palette :=
    if_neg (Bool.eq_false_iff.mp filled)
  have colored_eq : ofDepth columns depth .indexed (some palette) colored
      = build columns (.indexed depth) [{ depth }] palette colored := by
    unfold ofDepth
    rw [indexed]
    show (paletteFor (.indexed depth) depth (some palette) >>= fun palette =>
      build columns (.indexed depth) [{ depth }] palette colored) = _
    rw [colors]
    rfl
  have gray_eq : ofDepth columns depth .gray other gray
      = build columns (.gray depth) [{ depth }] (.withCapacity 0) gray := by
    unfold ofDepth
    rw [leveled]
    rfl
  rw [colored_eq, gray_eq]
  unfold build
  rw [show RowSink.width colored = RowSink.width gray from grays.width]
  refine .ite (fun _ => .error) fun wide => ?_
  dsimp only
  have rgb : RowSink.colorSpace colored = (Layout.indexed depth).colorSpace := grays.rgb
  have luma : RowSink.colorSpace gray = (Layout.gray depth).colorSpace := grays.luma
  rw [if_neg (not_not_intro rgb), if_neg (not_not_intro luma)]
  cases scaled : [({ depth } : Component)].mapM ComponentScale.build with
  | error err => exact .error
  | ok scales =>
    obtain ⟨scale, built, rfl⟩ : ∃ scale, ComponentScale.build { depth } = .ok scale
        ∧ scales = [scale] := by
      cases scales_of_mapM scaled with
      | cons built rest =>
        cases rest
        exact ⟨_, built, rfl⟩
    exact .ok ⟨Expander.grays_of_ramp few shows built columns _, grays,
      (Decidable.not_not.mp wide).symm⟩

namespace FrameFormat

variable {format : FrameFormat} {palette : Palette} {colored gray : PixelBuffer}
  (plain : format.components = none) (unsigned : format.signed = false)
  (indexed : format.model = .indexed) (colors : format.palette = some palette)
  (few : format.depth ∈ [2, 4, 8])
  (shows : palette.Shows (Size.values format.depth)
    (Colormap.defaultColor .two (Size.values format.depth)))
  (grays : colored.Grays gray)

include plain unsigned indexed colors few shows grays

/-- Frames are set up alike for indices into a ramp and for levels of gray. -/
theorem setUp_grays (other : Option Palette) :
    SameOutcome (RowState.Related Unpacker.Grays) (format.setUp colored)
      ({ format with model := .gray, palette := other }.setUp gray) := by
  have widths : { format with model := .gray, palette := other }.rowByteWidth
      = format.rowByteWidth := rfl
  unfold setUp
  rw [widths, plain, unsigned, indexed, colors,
    show RowSink.height colored = RowSink.height gray from grays.height]
  dsimp only
  refine .ite (fun _ => .error) fun _ => .ite (fun _ => .error) fun _ => ?_
  refine (SameOutcome.refl (fun _ => rfl) _).bind fun width _ same_width => ?_
  cases same_width
  refine (Unpacker.ofDepth_grays few shows grays _ other).bind fun unpacker unpacker' alike => ?_
  refine (SameOutcome.refl (fun _ => rfl) _).bind fun assembler _ same => ?_
  cases same
  exact .ok ⟨rfl, alike⟩

/-- **Indices into a ramp are decoded as levels of gray are**: the frame ends in the same way, with
as many rows committed, and it has the same samples, three times. -/
theorem decode_grays {σ : Type} [ByteSource σ] (source : σ) (stop : Stop) (other : Option Palette) :
    let decoded := format.decode source colored stop
    let decoded' := { format with model := .gray, palette := other }.decode source gray stop
    decoded.result = decoded'.result ∧ decoded.source = decoded'.source
      ∧ decoded.stop = decoded'.stop ∧ decoded.sink.Grays decoded'.sink := by
  have setUps := setUp_grays plain unsigned indexed colors few shows grays other
  generalize ready : format.setUp colored = result,
    ready' : { format with model := .gray, palette := other }.setUp gray = result' at setUps
  cases setUps with
  | error =>
    rw [decode_of_error ready, decode_of_error ready']
    exact ⟨rfl, rfl, rfl, grays⟩
  | ok into =>
    have counted : RowState.Related Unpacker.CountedGrays _ _ :=
      ⟨into.assembler, into.consumer, ((format.setUp_yields colored).of_ok ready).word⟩
    have compression : format.compression
        = { format with model := .gray, palette := other }.compression := rfl
    obtain ⟨result, behind, asked, unpacker, unpacker', alike, sink, sink', -⟩ | ⟨_, _, failed⟩ :=
      decode_of_setUps (SourceSimulates.refl σ).compares Unpacker.consume_grays compression
        ready ready' (rfl : source = source) counted stop
    · refine ⟨result, behind, asked, ?_⟩
      rw [sink, sink']
      exact alike.sink
    · exact failed.elim

end FrameFormat

end WpgRaster
