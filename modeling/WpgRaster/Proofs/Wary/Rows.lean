import Mathlib.Data.Option.Basic
import WpgRaster.Proofs.Frame.Unpackers
import WpgRaster.Proofs.Pixel.Streaming
import WpgRaster.Proofs.Wary.Steps

/-!
# Rows that are unpacked warily

A packed row is unpacked into an image once more, and this time nothing is taken for granted: not
that the bytes of a sample are in the row, nor that a palette has a colour, nor that the row of the
image is in the image and has room for all samples, nor that a product or a sum fits a word
(`Unpacker.consumeWarily`).

It may all be taken for granted (`Unpacker.Equipped.consume_agrees`), if the unpacker was made for
the image and the packed row is as long as the bits of its pixels require.
-/

namespace WpgRaster

/-! ## Samples that are there -/

/-- A sample of a packed row, if the row has the byte that it is in. -/
def packedSample? (row : Bytes) (x bits : Nat) : Option Nat := do
  let bit ← Size.mul? x bits
  let byte ← row[bit / 8]?
  guard (bit % 8 + bits ≤ 8)
  return byte.toNat / Size.values (8 - bits - bit % 8) % Size.values bits

theorem packedSample?_eq {bits : Nat} (whole : bits ∈ [1, 2, 4, 8]) {row : Bytes} {x : Nat}
    (inside : x * bits < row.size * 8) (word : x * bits < Size.limit) :
    packedSample? row x bits = some (packedSample row x bits) := by
  have bit : Size.mul? x bits = some (x * bits) := Size.mul?_eq_some.mpr ⟨rfl, word⟩
  have byte : row[x * bits / 8]? = some row[x * bits / 8] := Array.getElem?_eq_getElem (by omega)
  unfold packedSample? packedSample
  simp only [bit, byte, (Option.guard_eq_some' ()).mpr (aligned_of_mem whole x),
    Option.bind_eq_bind, Option.bind_some, Option.pure_def, Option.getD_some]

/-- Three pixels of four bits need a second byte: with one of them the last sample is not there. -/
example : packedSample? #[0x12] 2 4 = none := by decide

/-- The colour of an index. An index that is too large has one if there is a last colour. -/
def Palette.lookup? (palette : Palette) (index : Nat) : Option (PaletteEntry × Bool) :=
  match palette.entries[index]? with
  | some entry => some (entry, false)
  | none => palette.entries.back?.map (·, true)

theorem Palette.lookup?_eq {palette : Palette} (some : palette.isEmpty = false) (index : Nat) :
    palette.lookup? index = Option.some (palette.lookup index) := by
  unfold lookup? lookup
  cases palette.entries[index]? with
  | some entry => rfl
  | none =>
    have last : palette.entries.back? = Option.some (palette.entries.back?.getD .black) := by
      cases there : palette.entries.back? with
      | some entry => rfl
      | none =>
        rw [Array.back?_eq_none_iff] at there
        unfold isEmpty at some
        rw [there] at some
        cases some
    dsimp only
    rw [last]
    rfl

/-- The next sample of some bytes, if they are there, and what is left of them. -/
def ComponentScale.next? (scale : ComponentScale) : List UInt8 → Option (UInt16 × List UInt8)
  | [] => none
  | high :: rest =>
    if scale.wide then
      match rest with
      | [] => none
      | low :: rest => some (scale.value (256 * high.toNat + low.toNat), rest)
    else some (scale.value high.toNat, rest)

/-- The next pixel of some bytes, if they are there, and what is left of them. -/
def Expander.nextPixel? : List ComponentScale → List UInt8 → Option (List UInt16 × List UInt8)
  | [], bytes => some ([], bytes)
  | scale :: scales, bytes => do
    let (sample, bytes) ← scale.next? bytes
    let (samples, bytes) ← nextPixel? scales bytes
    return (sample :: samples, bytes)

/-- The next pixels of some bytes, if they are there, and what is left of them. -/
def Expander.nextPixels? (scales : List ComponentScale) :
    Nat → List UInt8 → Option (List UInt16 × List UInt8)
  | 0, bytes => some ([], bytes)
  | count + 1, bytes => do
    let (pixel, bytes) ← nextPixel? scales bytes
    let (pixels, bytes) ← nextPixels? scales count bytes
    return (pixel ++ pixels, bytes)

theorem ComponentScale.next?_eq {component : Component} {scale : ComponentScale}
    (built : build component = .ok scale) {bytes : List UInt8}
    (enough : component.storedBytes ≤ bytes.length) :
    scale.next? bytes
      = some (component.shown (component.front bytes), bytes.drop component.storedBytes) := by
  have value := Component.value_of_build built
  have wide : scale.wide = (component.storedBytes == 2) := by rw [Component.eq_of_build built]
  unfold Component.storedBytes at enough wide ⊢
  unfold next? Component.front
  by_cases narrow : component.depth ≤ 8
  · rw [if_pos narrow] at enough wide ⊢
    rw [wide, if_pos narrow]
    match bytes, enough with
    | high :: rest, _ => exact congrArg (fun sample => some (sample, rest)) (value _)
  · rw [if_neg narrow] at enough wide ⊢
    rw [wide, if_neg narrow]
    match bytes, enough with
    | high :: low :: rest, _ => exact congrArg (fun sample => some (sample, rest)) (value _)

namespace Expander

variable {components : List Component} {scales : List ComponentScale}

/-- **A pixel is read if its bytes are there.** -/
theorem nextPixel?_eq (built : Component.Scaled components scales) {bytes : List UInt8}
    (enough : Component.totalBytes components ≤ bytes.length) :
    nextPixel? scales bytes
      = some (Component.readPixel components bytes,
          bytes.drop (Component.totalBytes components)) := by
  induction built generalizing bytes with
  | nil => rfl
  | @cons component scale components scales one _ ih =>
    unfold Component.totalBytes at enough
    have next := ComponentScale.next?_eq one (show component.storedBytes ≤ bytes.length by omega)
    have more := @ih (bytes.drop component.storedBytes) (by rw [List.length_drop]; omega)
    unfold nextPixel?
    simp only [next, more, Option.bind_eq_bind, Option.bind_some, Option.pure_def]
    rw [List.drop_drop]
    rfl

/-- **So are pixels, one behind the other.** -/
theorem nextPixels?_eq (built : Component.Scaled components scales) {count : Nat}
    {bytes : List UInt8} (enough : count * Component.totalBytes components ≤ bytes.length) :
    nextPixels? scales count bytes
      = some (Component.readPixels components count bytes,
          bytes.drop (count * Component.totalBytes components)) := by
  induction count generalizing bytes with
  | zero =>
    rw [Nat.zero_mul]
    rfl
  | succ count ih =>
    rw [Nat.succ_mul] at enough
    have next := nextPixel?_eq built
      (show Component.totalBytes components ≤ bytes.length by omega)
    have more := @ih (bytes.drop (Component.totalBytes components))
      (by rw [List.length_drop]; omega)
    unfold nextPixels?
    simp only [next, more, Option.bind_eq_bind, Option.bind_some, Option.pure_def]
    rw [List.drop_drop, Nat.succ_mul, Nat.add_comm]
    rfl

/-- What is there for every element of a list. -/
theorem mapM_eq_some {α β : Type} {f : α → Option β} {g : α → β} {list : List α}
    (known : ∀ a ∈ list, f a = some (g a)) : list.mapM f = some (list.map g) := by
  induction list with
  | nil => rfl
  | cons a rest ih =>
    rw [List.mapM_cons, known a List.mem_cons_self,
      ih fun other among => known other (List.mem_cons_of_mem a among)]
    rfl

/-- **A row is expanded warily.** All its samples have to be there, and room for what they are
expanded to. Of interleaved samples nothing may be left over. Beside the expanded row there is the
number of indices that were too large. -/
def expand? (exp : Expander) (row : Bytes) (room : Nat) : Option (List UInt16 × Nat) :=
  match exp.layout with
  | .gray bits => do
    let scale ← exp.scales[0]?
    guard (exp.columns ≤ room)
    let samples ← (List.range exp.columns).mapM (packedSample? row · bits)
    return (samples.map scale.value, 0)
  | .indexed bits => do
    let needed ← Size.mul? exp.columns 3
    guard (needed ≤ room)
    let colors ← (List.range exp.columns).mapM fun x =>
      (packedSample? row x bits).bind exp.palette.lookup?
    return (colors.flatMap fun color => [color.1.red, color.1.green, color.1.blue],
      colors.countP (·.2))
  | .interleaved count => do
    let needed ← Size.mul? exp.columns count
    guard (needed ≤ room ∧ exp.scales.length = count)
    let (samples, rest) ← nextPixels? exp.scales exp.columns row.toList
    guard (rest = [])
    return (samples, 0)

/-- No more indices of a row are too large than there are pixels. -/
theorem clampedIn_le (exp : Expander) (row : Bytes) : exp.clampedIn row ≤ exp.columns := by
  unfold clampedIn
  split
  · exact List.countP_le_length.trans_eq List.length_range
  · exact Nat.zero_le _

namespace Arranged

variable {columns : Nat} {layout : Layout} {palette : Option Palette} {exp : Expander} {row : Bytes}
  {room : Nat}

/-- **A sample of a row is there** if the row is as long as its bits require. -/
theorem packedSample?_eq {bits : Nat} (whole : bits ∈ [1, 2, 4, 8])
    (long : row.size = (bits * columns + 7) / 8) (word : bits * columns < Size.limit) {x : Nat}
    (among : x ∈ List.range columns) :
    packedSample? row x bits = some (packedSample row x bits) := by
  have some : 0 < bits := by
    simp only [List.mem_cons, List.not_mem_nil, or_false] at whole
    omega
  have next : (x + 1) * bits ≤ columns * bits :=
    Nat.mul_le_mul_right bits (List.mem_range.mp among)
  rw [Nat.succ_mul, Nat.mul_comm columns] at next
  exact WpgRaster.packedSample?_eq whole (by omega) (by omega)

/-- **A row is expanded warily with the same samples**, if it is as long as the bits of its pixels
require and there is room. -/
theorem expand?_eq (arranged : exp.Arranged columns layout palette components)
    (colors : ∀ bits, layout = .indexed bits → exp.palette.isEmpty = false)
    (long : row.size = (layout.bitsPerPixel components * columns + 7) / 8)
    (word : layout.bitsPerPixel components * columns < Size.limit)
    (count : columns * layout.colorSpace.components < Size.limit)
    (fits : columns * layout.colorSpace.components ≤ room) :
    exp.expand? row room = some ((exp.expand row).toList, exp.clampedIn row) := by
  have columns_eq := arranged.columns_eq
  have layout_eq := arranged.layout_eq
  unfold expand? clampedIn
  rw [columns_eq, layout_eq]
  cases arranged.supports with
  | @gray bits signed whole =>
    obtain ⟨scale, rest, -, -, scales⟩ := List.forall₂_cons_left_iff.mp arranged.scales
    have first : exp.scales[0]? = some scale := by
      rw [scales]
      rfl
    have pixel : ∀ x, (List.range (Layout.gray bits).colorSpace.components).map (exp.sample row x)
        = [scale.value (packedSample row x bits)] := fun x => by
      show [exp.sample row x 0] = _
      unfold sample Expander.scale
      rw [layout_eq, first]
      rfl
    have samples := mapM_eq_some fun x => packedSample?_eq whole long word (x := x)
    have room : columns ≤ room := Nat.le_trans (Nat.le_of_eq (Nat.mul_one columns).symm) fits
    rw [exp.toList_expand, columns_eq, layout_eq]
    simp only [first, samples, pixel, (Option.guard_eq_some' ()).mpr room, Option.bind_eq_bind,
      Option.bind_some, Option.pure_def, List.map_map]
    exact congrArg (fun samples => some (samples, 0)) List.map_eq_flatMap
  | @indexed bits signed whole =>
    have colors' := colors bits rfl
    have pixel : ∀ x,
        (List.range (Layout.indexed bits).colorSpace.components).map (exp.sample row x)
          = [(exp.palette.lookup (packedSample row x bits)).1.red,
            (exp.palette.lookup (packedSample row x bits)).1.green,
            (exp.palette.lookup (packedSample row x bits)).1.blue] := fun x => by
      show [exp.sample row x 0, exp.sample row x 1, exp.sample row x 2] = _
      unfold sample
      rw [layout_eq]
      rfl
    have shown := mapM_eq_some (f := fun x => (packedSample? row x bits).bind exp.palette.lookup?)
      (g := fun x => exp.palette.lookup (packedSample row x bits)) fun x among => by
        rw [packedSample?_eq whole long word among]
        exact Palette.lookup?_eq colors' _
    have needed : Size.mul? columns 3 = some (columns * 3) := Size.mul?_eq_some.mpr ⟨rfl, count⟩
    have room : columns * 3 ≤ room := fits
    rw [exp.toList_expand, columns_eq, layout_eq]
    simp only [needed, shown, pixel, (Option.guard_eq_some' ()).mpr room, Option.bind_eq_bind,
      Option.bind_some, Option.pure_def, List.flatMap_map, List.countP_map]
    rfl
  | @interleaved _ number same few deep =>
    have samples := arranged.supports.components_eq
    rw [samples] at count fits
    subst same
    -- whole bytes: rounding the bits of a row up to bytes adds nothing
    have size : row.toList.length = columns * Component.totalBytes components := by
      have bits : (Layout.interleaved components.length).bitsPerPixel components
          = Component.totalBytes components * 8 := rfl
      rw [Array.length_toList, long, bits, Nat.mul_right_comm,
        Nat.mul_comm columns]
      omega
    have needed : Size.mul? columns components.length = some (columns * components.length) :=
      Size.mul?_eq_some.mpr ⟨rfl, count⟩
    have scales : exp.scales.length = components.length := arranged.scales.length_eq.symm
    have read := nextPixels?_eq arranged.scales (Nat.le_of_eq size.symm)
    have nothing : row.toList.drop (columns * Component.totalBytes components) = [] :=
      List.drop_eq_nil_of_le (Nat.le_of_eq size)
    rw [arranged.toList_expand_interleaved, columns_eq]
    simp only [needed, read, (Option.guard_eq_some' ()).mpr (And.intro fits scales),
      (Option.guard_eq_some' ()).mpr nothing, Option.bind_eq_bind, Option.bind_some,
      Option.pure_def]

end Arranged

end Expander

/-! ## Rows that fit -/

namespace PixelBuffer

/-- **An image that is whole**: it has room for all its samples, and their number fits a word. -/
structure Whole (image : PixelBuffer) : Prop where
  /-- There are as many samples as the measures say. -/
  size : image.pixels.size = image.width * image.height * image.colorSpace.components
  /-- They can be counted. -/
  word : image.pixels.size < Size.limit

/-- **A new image is whole.** -/
theorem Whole.of_make {width height : Nat} {space : ColorSpace} {image : PixelBuffer}
    (made : make width height space = .ok image) : image.Whole := by
  obtain ⟨size, word⟩ := size_of_make made
  obtain ⟨rfl, rfl, rfl⟩ := measures_of_make made
  exact ⟨size, size ▸ word⟩

/-- How many samples a row has, if all of it is in the image. -/
def room? (image : PixelBuffer) (row : Nat) : Option Nat := do
  let stride ← Size.mul? image.width image.colorSpace.components
  let first ← Size.mul? row stride
  let last ← Size.mul? (← Size.add? row 1) stride
  guard (first ≤ last ∧ last ≤ image.pixels.size)
  return stride

/-- **All rows of a whole image are in it.** -/
theorem Whole.room?_eq {image : PixelBuffer} (whole : image.Whole) (wide : 0 < image.width)
    (samples : 0 < image.colorSpace.components) {row : Nat} (inside : row < image.height) :
    image.room? row = some (image.width * image.colorSpace.components)
      ∧ (row + 1) * (image.width * image.colorSpace.components) < Size.limit := by
  have size := whole.size
  have word := whole.word
  rw [Nat.mul_right_comm, Nat.mul_comm _ image.height] at size
  have some : 0 < image.width * image.colorSpace.components := Nat.mul_pos wide samples
  generalize known : image.width * image.colorSpace.components = stride at size some
  have last : (row + 1) * stride ≤ image.height * stride := Nat.mul_le_mul_right stride inside
  have next : (row + 1) * stride = row * stride + stride := Nat.succ_mul row stride
  have rows : row + 1 ≤ (row + 1) * stride := Nat.le_mul_of_pos_right _ some
  have length := Size.mul?_eq_some.mpr ⟨known, show stride < Size.limit by omega⟩
  have first := Size.mul?_eq_some.mpr ⟨rfl, show row * stride < Size.limit by omega⟩
  have count := Size.add?_eq_some.mpr ⟨rfl, show row + 1 < Size.limit by omega⟩
  have behind := Size.mul?_eq_some.mpr ⟨rfl, show (row + 1) * stride < Size.limit by omega⟩
  have within : row * stride ≤ (row + 1) * stride ∧ (row + 1) * stride ≤ image.pixels.size := by
    omega
  refine ⟨?_, by omega⟩
  unfold room?
  simp only [length, first, count, behind, (Option.guard_eq_some' ()).mpr within,
    Option.bind_eq_bind, Option.bind_some, Option.pure_def]

end PixelBuffer

namespace Unpacker

/-- **A packed row is unpacked warily into an image.** It has to have the width. -/
def consumeWarily (width row : Nat) (bytes : Bytes) :
    Wary RasterError (Unpacker PixelBuffer) Unit :=
  fun ⟨exp, image, clamped⟩ =>
    (do
      Wary.require (bytes.size = width)
      let needed ← Wary.found (Size.mul? exp.columns exp.layout.colorSpace.components)
      if image.height ≤ row then throw (some (.rowOutOfBounds row image.height))
      let room ← Wary.found (image.room? row)
      if room < needed then throw (some (.dimensionMismatch .rowLength needed room))
      let (samples, beyond) ← Wary.found (exp.expand? bytes room)
      let clamped ← Wary.found (Size.add? clamped beyond)
      let committed ← Wary.found (Size.add? row 1)
      let image := image.writeRow row samples.toArray
      set ({ expander := exp
             sink := { image with rowsCommitted := max image.rowsCommitted committed }
             clamped } : Unpacker PixelBuffer) : Wary RasterError (Unpacker PixelBuffer) Unit)
      ⟨exp, image, clamped⟩

/-- **An unpacker that is equipped for an image**: it was arranged for rows of a layout, and for a
width that holds their bits. -/
structure Equipped (width columns : Nat) (layout : Layout) (palette : Option Palette)
    (components : List Component) (unpacker : Unpacker PixelBuffer) : Prop where
  /-- Rows are expanded as the layout says. -/
  arranged : unpacker.expander.Arranged columns layout palette components
  /-- Indices have a colour to fall back on. -/
  colors : ∀ bits, layout = .indexed bits → unpacker.expander.palette.isEmpty = false
  /-- Packed rows are as long as their bits require. -/
  width_eq : width = (layout.bitsPerPixel components * columns + 7) / 8
  /-- The bits can be counted. -/
  word : layout.bitsPerPixel components * columns < Size.limit
  /-- There are pixels. -/
  wide : 0 < columns
  /-- The rows of the image are as wide. -/
  columns_eq : unpacker.sink.width = columns
  /-- Its pixels have the samples of the layout. -/
  space : unpacker.sink.colorSpace = layout.colorSpace
  /-- The image is whole. -/
  whole : unpacker.sink.Whole

variable {width columns : Nat} {layout : Layout} {palette : Option Palette}
  {components : List Component} {start unpacker : Unpacker PixelBuffer} {rows : List Bytes}

/-- No more indices of some rows are too large than there are pixels. -/
theorem clamped_le_of_handed (handed : Handed start rows unpacker) :
    unpacker.clamped ≤ start.clamped + rows.length * start.expander.columns := by
  induction handed with
  | none => exact Nat.le_add_right _ _
  | @more rows row before after earlier taken ih =>
    have few := start.expander.clampedIn_le row
    obtain ⟨rfl, -⟩ := consume_ok taken
    rw [List.length_append, List.length_singleton, Nat.succ_mul]
    show before.clamped + before.expander.clampedIn row ≤ _
    rw [expander_of_handed earlier]
    omega

/-- Rows, pixels and the samples of a row are no more than the samples up to the end of a row. -/
theorem counts_le_samples {columns components : Nat} (wide : 0 < columns) (some : 0 < components)
    (row : Nat) :
    let samples := (row + 1) * (columns * components)
    row + 1 ≤ samples ∧ (row + 1) * columns ≤ samples ∧ columns * components ≤ samples :=
  ⟨Nat.le_mul_of_pos_right _ (Nat.mul_pos wide some),
    Nat.mul_le_mul_left _ (Nat.le_mul_of_pos_right _ some), Nat.le_mul_of_pos_left _ row.succ_pos⟩

namespace Equipped

/-- **The image stays whole**, and the unpacker equipped, whatever rows it is handed. -/
theorem of_handed (equipped : start.Equipped width columns layout palette components)
    (handed : Handed start rows unpacker) :
    unpacker.Equipped width columns layout palette components := by
  have painted := painted_of_handed handed
  have expander := expander_of_handed handed
  obtain ⟨wide, high, space⟩ := measures_of_handed handed
  exact
    { arranged := expander ▸ equipped.arranged
      colors := expander ▸ equipped.colors
      width_eq := equipped.width_eq
      word := equipped.word
      wide := equipped.wide
      columns_eq := wide.trans equipped.columns_eq
      space := space.trans equipped.space
      whole :=
        { size := by rw [painted.size, wide, high, space, equipped.whole.size]
          word := by rw [painted.size]; exact equipped.whole.word } }

/-- **A row is unpacked warily as it is unpacked**, if it has the width and the image has the
row. -/
theorem consume_agrees (equipped : start.Equipped width columns layout palette components)
    (fresh : start.clamped = 0) (handed : Handed start rows unpacker)
    (few : rows.length < start.sink.height) {row : Bytes} (long : row.size = width) :
    Wary.Agrees (consumeWarily width rows.length row) (RowConsumer.consume rows.length row)
      unpacker := by
  have now := equipped.of_handed handed
  have bounded := clamped_le_of_handed handed
  have height := (measures_of_handed handed).2.1
  rw [fresh, Nat.zero_add, ← expander_of_handed handed] at bounded
  rw [← height] at few
  obtain ⟨exp, image, clamped⟩ := unpacker
  change clamped ≤ rows.length * exp.columns at bounded
  have arranged := now.arranged
  have samples : 0 < image.colorSpace.components := by
    rw [now.space]
    exact arranged.supports.components_pos
  have wide : 0 < image.width := Nat.lt_of_lt_of_eq now.wide now.columns_eq.symm
  obtain ⟨room, last⟩ := now.whole.room?_eq wide samples few
  have stride : image.width * image.colorSpace.components
      = columns * layout.colorSpace.components := by rw [now.columns_eq, now.space]
  have expected : exp.columns * exp.layout.colorSpace.components
      = columns * layout.colorSpace.components := by rw [arranged.columns_eq, arranged.layout_eq]
  rw [stride] at room last
  -- no number on the way is larger than that of the samples up to the end of this row
  obtain ⟨count, pixel, once⟩ :=
    counts_le_samples now.wide arranged.supports.components_pos rows.length
  have beyond := exp.clampedIn_le row
  rw [show exp.columns = columns from arranged.columns_eq] at bounded beyond
  rw [Nat.succ_mul] at pixel
  have needed : Size.mul? exp.columns exp.layout.colorSpace.components
      = some (columns * layout.colorSpace.components) := Size.mul?_eq_some.mpr ⟨expected, by omega⟩
  have expanded := arranged.expand?_eq now.colors (long.trans now.width_eq) now.word (by omega)
    (Nat.le_refl (columns * layout.colorSpace.components))
  have counted : Size.add? clamped (exp.clampedIn row) = some (clamped + exp.clampedIn row) :=
    Size.add?_eq_some.mpr ⟨rfl, by omega⟩
  have committed : Size.add? rows.length 1 = some (rows.length + 1) :=
    Size.add?_eq_some.mpr ⟨rfl, by omega⟩
  have there : ¬ image.height ≤ rows.length := Nat.not_le.mpr few
  have word : ¬ Size.limit ≤ exp.sampleCount := by
    unfold Expander.sampleCount
    omega
  have enough : ¬ image.stride < exp.sampleCount := by
    unfold PixelBuffer.stride Expander.sampleCount
    rw [stride, expected]
    exact Nat.lt_irrefl _
  have taken := consume_eq ⟨exp, image, clamped⟩ rows.length row
  rw [if_neg word, if_neg there, if_neg enough] at taken
  refine Wary.Agrees.of_eq_ok taken ?_
  unfold consumeWarily
  simp only [Wary.require, Wary.found, long, needed, room, expanded, counted, committed,
    if_neg there, if_neg (Nat.lt_irrefl _), pure_bind, if_true]
  rfl

end Equipped

/-- An unpacker of indices has a colour to fall back on. -/
theorem InUse.colors {κ : Type} [RowSink κ] {unpacker : Unpacker κ}
    (used : InUse columns layout palette components unpacker) :
    ∀ bits, layout = .indexed bits → unpacker.expander.palette.isEmpty = false := by
  induction used with
  | @ofDepth depth model palette layout sink unpacker resolved made =>
    intro bits indices
    obtain ⟨resolved', found⟩ := ofDepth_ok made
    rw [resolved] at resolved'
    rw [← Except.ok.inj resolved', indices] at found
    exact (paletteFor_indexed found).2
  | ofComponents made => exact nofun
  | setSigned signed _ ih => exact ih
  | handed row bytes _ ih =>
    rw [expander_consumeRow]
    exact ih

end Unpacker

namespace FrameFormat

variable {format : FrameFormat}

/-- **A frame that is set up for a whole image has an unpacker that is equipped for it.** -/
theorem equipped_of_setUp {image : PixelBuffer} {rows : RowState (Unpacker PixelBuffer)}
    (whole : image.Whole) (ready : format.setUp image = .ok rows) :
    ∃ layout palette components, rows.consumer.Equipped rows.assembler.width format.columns layout
      palette components := by
  have setUp := (format.setUp_yields image).of_ok ready
  obtain ⟨some, built⟩ := exists_of_setUp ready
  obtain ⟨layout, palette, components, used, bits⟩ := inUse_of_unpacker built
  obtain ⟨word, width⟩ := rowByteWidth_ok setUp.width
  have arranged := used.arranged
  have columns := setUp.fits.columns
  have space := setUp.fits.colorSpace
  rw [bits] at word width
  rw [arranged.columns_eq] at columns
  rw [arranged.layout_eq] at space
  refine ⟨layout, palette, components, ?_⟩
  exact
    { arranged
      colors := used.colors
      width_eq := width
      word := by omega
      wide := Nat.pos_of_ne_zero some
      columns_eq := by rw [setUp.fits.sink_eq]; exact columns.symm
      space := by rw [setUp.fits.sink_eq]; exact space.symm
      whole := setUp.fits.sink_eq ▸ whole }

end FrameFormat

end WpgRaster
