import WpgRaster.Proofs.Pixel.Image
import WpgRaster.Proofs.Pixel.Buffer

/-!
# Images of palette indices

A pixel of a packed row is the number that its bits are the digits of
(`packedIndex`). If the palette has a colour for every number of so many bits, then no
index is beyond it, and the pixel becomes the colour that the index selects. In the
image it stays what it became, since no other row touches it
(`Unpacker.pixel_of_handed`).
-/

namespace WpgRaster

/-! ## Indices in a packed row -/

/-- A bit of a packed row. The most significant bit of the first byte comes first, and
bits that are missing are zero. -/
def rowBit (row : Bytes) (position : Nat) : Nat :=
  (row[position / 8]?.getD 0).toNat / Size.values (7 - position % 8) % 2

/-- The number with the given binary digits, the most significant first. -/
def ofBits (bits : List Nat) : Nat := bits.foldl (fun value bit => 2 * value + bit) 0

/-- **The index of a pixel**: the number that the bits of the pixel are the digits of. -/
def packedIndex (row : Bytes) (x depth : Nat) : Nat :=
  ofBits ((List.range depth).map fun i => rowBit row (x * depth + i))

/-- Digits of a number make what is left of it when those on either side are cut off. -/
theorem ofBits_digits (value low count : Nat) :
    ofBits ((List.range count).map fun i => value / Size.values (low + (count - 1 - i)) % 2)
      = value / Size.values low % Size.values count := by
  induction count generalizing low with
  | zero => rw [Size.values_zero, Nat.mod_one]; rfl
  | succ count ih =>
    have front : (List.range count).map
          (fun i => value / Size.values (low + (count + 1 - 1 - i)) % 2)
        = (List.range count).map
          fun i => value / Size.values (low + 1 + (count - 1 - i)) % 2 := by
      refine List.map_congr_left fun i among => ?_
      have inside := List.mem_range.mp among
      rw [show low + (count + 1 - 1 - i) = low + 1 + (count - 1 - i) by omega]
    have split : value / Size.values low % Size.values (count + 1)
        = value / Size.values low % 2
          + 2 * (value / Size.values (low + 1) % Size.values count) := by
      rw [Size.values_succ, Size.values_succ, Nat.mod_mul, Nat.div_div_eq_div_mul,
        Nat.mul_comm (Size.values low)]
    have last : low + (count + 1 - 1 - count) = low := by omega
    rw [List.range_succ, List.map_append, front]
    unfold ofBits at ih ⊢
    rw [List.foldl_append, ih (low + 1), split]
    simp only [List.map_cons, List.map_nil, List.foldl_cons, List.foldl_nil, last]
    exact Nat.add_comm _ _

/-- Samples of these sizes do not reach across bytes. -/
theorem aligned_of_mem {bits : Nat} (whole : bits ∈ [1, 2, 4, 8]) (x : Nat) :
    x * bits % 8 + bits ≤ 8 := by
  simp only [List.mem_cons, List.not_mem_nil, or_false] at whole
  obtain rfl | rfl | rfl | rfl := whole <;> omega

/-- **The index of a pixel is cut out of its byte**, if it does not reach into another
one. -/
theorem packedSample_eq_packedIndex (row : Bytes) {x depth : Nat}
    (aligned : x * depth % 8 + depth ≤ 8) : packedSample row x depth = packedIndex row x depth := by
  unfold packedSample packedIndex
  dsimp only
  rw [← ofBits_digits]
  refine congrArg ofBits (List.map_congr_left fun i among => ?_)
  have inside := List.mem_range.mp among
  unfold rowBit
  rw [show (x * depth + i) / 8 = x * depth / 8 by omega,
    show 7 - (x * depth + i) % 8 = 8 - depth - x * depth % 8 + (depth - 1 - i) by omega]

/-- An index of some bits is one of their values. -/
theorem packedSample_lt (row : Bytes) (x bits : Nat) :
    packedSample row x bits < Size.values bits := Nat.mod_lt _ (Size.values_pos bits)

/-! ## Colours of indices -/

/-- The samples of an opaque pixel of a colour. -/
def PaletteEntry.samples (entry : PaletteEntry) : List UInt16 :=
  [entry.red, entry.green, entry.blue]

/-- A colour that is there is found, and not clamped. -/
theorem Palette.lookup_of_lt {palette : Palette} {index : Nat} (inside : index < palette.count) :
    ∃ entry, palette.get? index = some entry ∧ palette.lookup index = (entry, false) := by
  have found : palette.entries[index]? = some palette.entries[index] :=
    Array.getElem?_eq_getElem inside
  refine ⟨_, found, ?_⟩
  unfold lookup
  rw [found]

namespace Expander

variable {exp : Expander} {bits : Nat}

/-- **No index is beyond a palette** with a colour for each value. -/
theorem clampedIn_of_colors
    (colors : ∀ bits, exp.layout = .indexed bits → Size.values bits ≤ exp.palette.count)
    (row : Bytes) : exp.clampedIn row = 0 := by
  unfold clampedIn
  split
  · next bits layout =>
    refine List.countP_eq_zero.mpr fun x _ => ?_
    obtain ⟨entry, -, found⟩ :=
      Palette.lookup_of_lt (Nat.lt_of_lt_of_le (packedSample_lt row x bits) (colors bits layout))
    rw [found]
    exact Bool.false_ne_true
  · rfl

/-- **An index becomes the colour that it selects.** -/
theorem samples_of_indexed (layout : exp.layout = .indexed bits)
    (colors : Size.values bits ≤ exp.palette.count) (row : Bytes) (x : Nat) :
    ∃ entry, exp.palette.get? (packedSample row x bits) = some entry
      ∧ (List.range 3).map (exp.sample row x) = entry.samples := by
  obtain ⟨entry, there, found⟩ :=
    Palette.lookup_of_lt (Nat.lt_of_lt_of_le (packedSample_lt row x bits) colors)
  refine ⟨entry, there, ?_⟩
  show [exp.sample row x 0, exp.sample row x 1, exp.sample row x 2] = _
  unfold sample
  rw [layout]
  dsimp only
  rw [found]
  rfl

/-- The samples of a pixel are found at its place. -/
theorem getElem?_expand (exp : Expander) (row : Bytes) {x c : Nat} (inside : x < exp.columns)
    (among : c < exp.layout.colorSpace.components) :
    (exp.expand row)[x * exp.layout.colorSpace.components + c]? = some (exp.sample row x c) := by
  have next : x * exp.layout.colorSpace.components + exp.layout.colorSpace.components
      ≤ exp.columns * exp.layout.colorSpace.components := by
    rw [← Nat.succ_mul]
    exact Nat.mul_le_mul_right _ inside
  have some : 0 < exp.layout.colorSpace.components := by omega
  have pixel : (x * exp.layout.colorSpace.components + c) / exp.layout.colorSpace.components
      = x := by
    rw [Nat.mul_comm, Nat.mul_add_div some, Nat.div_eq_of_lt among, Nat.add_zero]
  have component : (x * exp.layout.colorSpace.components + c) % exp.layout.colorSpace.components
      = c := by
    rw [Nat.mul_comm, Nat.mul_add_mod, Nat.mod_eq_of_lt among]
  unfold expand
  dsimp only
  rw [Array.getElem?_ofFn, dif_pos (by omega), pixel, component]

end Expander

/-! ## Pixels of an image -/

namespace PixelBuffer

/-- The samples of a pixel. -/
def pixel (image : PixelBuffer) (x y : Nat) : List UInt16 :=
  (image.pixels.toList.drop ((y * image.width + x) * image.colorSpace.components)).take
    image.colorSpace.components

/-- The samples of a pixel are those at its place. -/
theorem pixel_eq_map {image : PixelBuffer} {x y : Nat} {samples : Nat → UInt16}
    (found : ∀ c < image.colorSpace.components, image.pixels[
      (y * image.width + x) * image.colorSpace.components + c]? = some (samples c)) :
    image.pixel x y = (List.range image.colorSpace.components).map samples := by
  unfold pixel
  refine List.ext_getElem? fun c => ?_
  rw [List.getElem?_take, List.getElem?_drop, List.getElem?_map, Array.getElem?_toList]
  by_cases few : c < image.colorSpace.components
  · rw [if_pos few, found c few, List.getElem?_range few]
    rfl
  · rw [if_neg few, List.getElem?_eq_none (by rw [List.length_range]; omega)]
    rfl

/-- **An image has room for all its samples**, and their number fits a word. -/
theorem size_of_make {width height : Nat} {space : ColorSpace} {image : PixelBuffer}
    (made : make width height space = .ok image) :
    image.pixels.size = width * height * space.components
      ∧ width * height * space.components < Size.limit := by
  unfold make at made
  cases counted : sampleCount? width height space with
  | none =>
    rw [counted] at made
    cases made
  | some count =>
    obtain ⟨pixels, inner, outer⟩ := Option.bind_eq_some_iff.mp counted
    obtain ⟨rfl, -⟩ := Size.mul?_eq_some.mp inner
    obtain ⟨rfl, fits⟩ := Size.mul?_eq_some.mp outer
    rw [counted] at made
    dsimp only at made
    split at made
    · cases made
      exact ⟨Array.size_replicate, fits⟩
    · cases made

end PixelBuffer

namespace Unpacker

variable {start unpacker : Unpacker PixelBuffer} {rows : List Bytes}

/-- Rows are all expanded in the same way. -/
theorem expander_of_handed (handed : Handed start rows unpacker) :
    unpacker.expander = start.expander := by
  induction handed with
  | none => rfl
  | more _ taken ih =>
    obtain ⟨rfl, -⟩ := consume_ok taken
    exact ih

/-- **Indices are clamped row by row**, so any count that grows with each row as they do tells how
many there were. -/
theorem clamped_eq_of_handed (handed : Handed start rows unpacker) (count : List Bytes → Nat)
    (none : count [] = 0)
    (more : ∀ rows row, count (rows ++ [row]) = count rows + start.expander.clampedIn row) :
    unpacker.clamped = start.clamped + count rows := by
  induction handed with
  | none => rw [none, Nat.add_zero]
  | @more rows row before after earlier taken ih =>
    obtain ⟨rfl, -⟩ := consume_ok taken
    show before.clamped + before.expander.clampedIn row = _
    rw [ih, expander_of_handed earlier, more, Nat.add_assoc]

/-- Nothing is clamped if nothing is clamped in any row. -/
theorem clamped_of_handed (handed : Handed start rows unpacker)
    (inside : ∀ row, start.expander.clampedIn row = 0) : unpacker.clamped = start.clamped :=
  clamped_eq_of_handed handed (fun _ => 0) rfl fun _ row => by rw [inside row]

/-- **A row stays as it was painted**, whatever rows come below it. -/
theorem getElem?_of_handed (handed : Handed start rows unpacker) {y i : Nat}
    (among : y < rows.length) (room : y * start.sink.stride + i < start.sink.pixels.size)
    (inside : i < (start.expander.expand rows[y]).size) :
    unpacker.sink.pixels[y * start.sink.stride + i]? = (start.expander.expand rows[y])[i]? := by
  induction handed with
  | none => exact absurd among (Nat.not_lt_zero y)
  | @more rows row before after earlier taken ih =>
    have painted := painted_of_handed earlier
    obtain ⟨rfl, fits⟩ := consume_ok taken
    rw [expander_of_handed earlier, painted.stride] at fits
    show (PixelBuffer.overwrite before.sink.pixels (rows.length * before.sink.stride)
      (before.expander.expand row).toList)[y * start.sink.stride + i]? = _
    rw [PixelBuffer.getElem?_overwrite, painted.size, painted.stride, expander_of_handed earlier]
    have length : (start.expander.expand row).toList.length = (start.expander.expand row).size :=
      Array.length_toList
    rw [length]
    rw [List.length_append, List.length_singleton] at among
    by_cases last : y = rows.length
    · subst last
      rw [List.getElem_concat_length rfl] at inside ⊢
      rw [if_pos ⟨room, by omega, by omega⟩, Array.getElem?_toList, Nat.add_sub_cancel_left]
    · have above : y < rows.length := by omega
      have next : (y + 1) * start.sink.stride ≤ rows.length * start.sink.stride :=
        Nat.mul_le_mul_right _ above
      rw [Nat.succ_mul] at next
      rw [List.getElem_append_left above] at inside ⊢
      have narrow : (start.expander.expand rows[y]).size = (start.expander.expand row).size := by
        rw [Expander.size_expand, Expander.size_expand]
      rw [if_neg (by omega), ih above inside]

/-- **Every pixel is what its row says**, if the rows are as long as those of the image,
and the image has room for them. There may be more rows in it. -/
theorem pixel_of_handed (handed : Handed start rows unpacker)
    (columns : start.expander.columns = start.sink.width)
    (space : start.expander.layout.colorSpace = start.sink.colorSpace)
    (size : start.sink.width * rows.length * start.sink.colorSpace.components
      ≤ start.sink.pixels.size)
    {x y : Nat} (inside : x < start.sink.width) (among : y < rows.length) :
    unpacker.sink.pixel x y
      = (List.range start.sink.colorSpace.components).map (start.expander.sample rows[y] x) := by
  obtain ⟨width, -, space'⟩ := measures_of_handed handed
  have components : start.expander.layout.colorSpace.components
      = start.sink.colorSpace.components := congrArg ColorSpace.components space
  have components' : unpacker.sink.colorSpace.components = start.sink.colorSpace.components :=
    congrArg ColorSpace.components space'
  rw [← components']
  refine PixelBuffer.pixel_eq_map fun c few => ?_
  rw [components'] at few ⊢
  rw [width]
  have below : (y + 1) * start.sink.width ≤ start.sink.width * rows.length := by
    rw [Nat.mul_comm start.sink.width]
    exact Nat.mul_le_mul_right _ among
  have last := Nat.mul_le_mul_right start.sink.colorSpace.components below
  have narrow : start.sink.width * start.sink.colorSpace.components
      ≤ (y + 1) * start.sink.width * start.sink.colorSpace.components :=
    Nat.mul_le_mul_right _ (Nat.le_mul_of_pos_left _ (Nat.succ_pos y))
  have stride : start.sink.stride = start.sink.width * start.sink.colorSpace.components := rfl
  have place : (y * start.sink.width + x) * start.sink.colorSpace.components + c
      = y * start.sink.stride + (x * start.sink.colorSpace.components + c) := by
    rw [stride, Nat.add_mul, Nat.mul_assoc, Nat.add_assoc]
  have room : y * start.sink.stride + (x * start.sink.colorSpace.components + c)
      < start.sink.pixels.size :=
    calc y * start.sink.stride + (x * start.sink.colorSpace.components + c)
        = (y * start.sink.width + x) * start.sink.colorSpace.components + c := place.symm
      _ < (y * start.sink.width + x + 1) * start.sink.colorSpace.components := by
        rw [Nat.succ_mul]
        omega
      _ ≤ (y + 1) * start.sink.width * start.sink.colorSpace.components :=
        Nat.mul_le_mul_right _ (by rw [Nat.succ_mul]; omega)
      _ ≤ start.sink.pixels.size := Nat.le_trans last size
  have expanded := start.expander.getElem?_expand rows[y] (Nat.lt_of_lt_of_eq inside columns.symm)
    (Nat.lt_of_lt_of_eq few components.symm)
  rw [components] at expanded
  obtain ⟨here, -⟩ := Array.getElem?_eq_some_iff.mp expanded
  rw [place, getElem?_of_handed handed among room here, expanded]

end Unpacker

end WpgRaster
