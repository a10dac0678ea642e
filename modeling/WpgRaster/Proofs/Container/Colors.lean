import WpgRaster.Proofs.Container.Grammar

/-!
# Palettes and colormaps

The entries of a palette record become the colours of a palette
(`PaletteBody.load_eq`). For a supported depth there is always a colormap,
whether or not a palette was loaded (`Colormap.exists_make`), and there is
memory for the image (`BitmapBody.make_blank`).
-/

namespace WpgRaster

/-! ## Entries -/

/-- The bytes of an entry are found at its place. -/
theorem take_drop_flatMap_toList {stride : Nat} (entries : List (Vector UInt8 stride)) {i : Nat}
    (inside : i < entries.length) :
    ((entries.flatMap Vector.toList).drop (i * stride)).take stride = entries[i].toList := by
  induction entries generalizing i with
  | nil => exact absurd inside (Nat.not_lt_zero i)
  | cons entry rest ih =>
    have length : entry.toList.length = stride := entry.length_toList
    rw [List.flatMap_cons]
    cases i with
    | zero =>
      rw [Nat.zero_mul, List.drop_zero, List.take_left' length]
      rfl
    | succ i =>
      rw [Nat.succ_mul, Nat.add_comm, ← List.drop_drop, List.drop_left' length,
        ih (Nat.lt_of_succ_lt_succ inside)]
      rfl

theorem length_flatMap_vector {stride : Nat} (entries : List (Vector UInt8 stride)) :
    (entries.flatMap Vector.toList).length = entries.length * stride := by
  induction entries with
  | nil => rw [List.flatMap_nil, List.length_nil, List.length_nil, Nat.zero_mul]
  | cons entry rest ih =>
    rw [List.flatMap_cons, List.length_append, entry.length_toList, ih, List.length_cons,
      Nat.succ_mul, Nat.add_comm]

namespace Palette

/-- **Writing colours** replaces those from an index on, as far as they are
there. -/
theorem getElem?_write (data : Bytes) (stride start count i : Nat)
    (entries : Array PaletteEntry) :
    (write data stride start count entries)[i]? =
      if start ≤ i ∧ i < start + count ∧ i < entries.size then
        some (.ofEntryBytes (data.extract ((i - start) * stride) ((i - start + 1) * stride)) stride)
      else entries[i]? := by
  induction count with
  | zero => rw [if_neg (by omega)]; rfl
  | succ count ih =>
    rw [write, Array.getElem?_setIfInBounds, size_write, ih]
    by_cases last : start + count = i
    · subst last
      rw [if_pos rfl, Nat.add_sub_cancel_left]
      by_cases inside : start + count < entries.size
      · rw [if_pos inside, if_pos ⟨by omega, by omega, inside⟩]
      · rw [if_neg inside, if_neg (by omega), Array.getElem?_eq_none (by omega)]
    · rw [if_neg last]
      by_cases before : start ≤ i ∧ i < start + count ∧ i < entries.size
      · rw [if_pos before, if_pos ⟨before.1, by omega, before.2.2⟩]
      · rw [if_neg before, if_neg (by omega)]

/-- **A palette grows by black**, as far as its capacity goes. -/
theorem resize_of_lt (palette : Palette) {len : Nat} (more : palette.count < len)
    (fits : len ≤ palette.capacity) (few : len ≤ 0x10000) :
    palette.resize len = .ok { palette with
      entries := palette.entries ++ Array.replicate (len - palette.count) .black } := by
  have granted : Size.allocatable (len * entryBytes) = true := by
    unfold Size.allocatable entryBytes
    rw [decide_eq_true_eq]
    omega
  unfold resize
  rw [if_neg (Nat.not_lt.mpr fits), if_neg (Nat.not_le.mpr more), if_pos granted]

theorem exists_resize (palette : Palette) {len : Nat} (fits : len ≤ palette.capacity)
    (few : len ≤ 0x10000) :
    ∃ grown, palette.resize len = .ok grown ∧ grown.capacity = palette.capacity := by
  by_cases more : palette.count < len
  · exact ⟨_, palette.resize_of_lt more fits few, rfl⟩
  · refine ⟨palette, ?_, rfl⟩
    unfold resize
    rw [if_neg (Nat.not_lt.mpr fits), if_pos (Nat.le_of_not_lt more)]

/-- A color is set wherever there is a place for it. -/
theorem exists_set (palette : Palette) (entry : PaletteEntry) {index : Nat}
    (fits : index < palette.capacity) (few : index < 0x10000) :
    ∃ changed, palette.set index entry = .ok changed ∧ changed.capacity = palette.capacity := by
  obtain ⟨grown, resized, capacity⟩ :=
    palette.exists_resize (Nat.succ_le_of_lt fits) (Nat.succ_le_of_lt few)
  unfold set
  rw [if_neg (Nat.not_le.mpr fits), resized]
  exact ⟨_, rfl, capacity⟩

/-- To set a color takes none away. -/
theorem count_le_of_set {palette changed : Palette} {entry : PaletteEntry} {index : Nat}
    (ran : palette.set index entry = .ok changed) : palette.count ≤ changed.count := by
  unfold set at ran
  split at ran
  · cases ran
  · obtain ⟨grown, resized, ran⟩ := exists_of_except_bind ran
    cases ran
    show palette.count ≤ (grown.entries.setIfInBounds index entry).size
    rw [Array.size_setIfInBounds]
    exact Nat.le_trans (Nat.le_max_left _ _) (Nat.le_of_eq (count_resize resized).symm)

end Palette

namespace Level

theorem paletteCapacity_le (level : Level) : level.paletteCapacity ≤ 0x10000 := by
  cases level <;> decide

theorem le_paletteCapacity (level : Level) : 256 ≤ level.paletteCapacity := by
  cases level <;> decide

@[simp] theorem capacity_emptyPalette (level : Level) :
    level.emptyPalette.capacity = level.paletteCapacity := rfl

@[simp] theorem count_emptyPalette (level : Level) : level.emptyPalette.count = 0 := rfl

@[simp] theorem entries_emptyPalette (level : Level) : level.emptyPalette.entries = #[] := rfl

/-- **Entries that have a place are loaded**, behind as much black as there is in front
of the first index. -/
theorem load_emptyPalette (level : Level) {start count : Nat} {data : Bytes} (some : count ≠ 0)
    (fits : start + count ≤ level.paletteCapacity)
    (size : count * Walk.entryStride level ≤ data.size) :
    level.emptyPalette.load start count data (Walk.entryStride level) = .ok
      { entries := Palette.write data (Walk.entryStride level) start count
          (Array.replicate (start + count) .black)
        capacity := level.paletteCapacity } := by
  have few := level.paletteCapacity_le
  have stride : 3 ≤ Walk.entryStride level := by cases level <;> decide
  have inside : ¬ (level.paletteCapacity < start + count ∨ Size.limit ≤ start + count) := by
    unfold Size.limit
    omega
  have available : count ≤ data.size / Walk.entryStride level :=
    (Nat.le_div_iff_mul_le (by omega)).mpr size
  have more : level.emptyPalette.count < start + count := by
    rw [level.count_emptyPalette]
    omega
  have grown := level.emptyPalette.resize_of_lt more fits (Nat.le_trans fits few)
  unfold Palette.load
  dsimp only
  rw [if_neg (Nat.not_lt.mpr stride), level.capacity_emptyPalette, if_neg inside,
    if_neg (Nat.not_lt.mpr available), grown, level.entries_emptyPalette,
    level.count_emptyPalette, Array.empty_append, Nat.sub_zero]
  rfl

end Level

namespace PaletteBody

variable {level : Level} (body : PaletteBody level)

theorem length_data : body.data.length = body.entries.length * Walk.entryStride level :=
  length_flatMap_vector body.entries

@[simp] theorem capacity_palette : body.palette.capacity = level.paletteCapacity := by
  unfold palette
  split
  · rfl
  · rfl

/-- The bytes of an entry are found at its place. -/
theorem extract_data {i : Nat} (inside : i < body.entries.length) :
    body.data.toArray.extract (i * Walk.entryStride level) ((i + 1) * Walk.entryStride level)
      = body.entries[i].toArray := by
  apply Array.toList_inj.mp
  rw [Array.toList_extract, List.extract_eq_take_drop, Nat.succ_mul, Nat.add_sub_cancel_left]
  exact take_drop_flatMap_toList body.entries inside

/-- Written over black, the entries of a record are its colours. -/
theorem toList_write :
    (Palette.write body.data.toArray (Walk.entryStride level) body.start.toNat body.entries.length
      (Array.replicate (body.start.toNat + body.entries.length) .black)).toList
      = List.replicate body.start.toNat .black ++ body.colors := by
  refine List.ext_getElem? fun i => ?_
  rw [Array.getElem?_toList, Palette.getElem?_write, Array.size_replicate, Array.getElem?_replicate]
  by_cases early : i < body.start.toNat
  · rw [if_neg (by omega), if_pos (by omega),
      List.getElem?_append_left (by rwa [List.length_replicate]), List.getElem?_replicate,
      if_pos early]
  rw [List.getElem?_append_right (by rw [List.length_replicate]; omega), List.length_replicate]
  unfold colors
  rw [List.getElem?_map]
  by_cases late : i < body.start.toNat + body.entries.length
  · have among : i - body.start.toNat < body.entries.length := by omega
    rw [if_pos ⟨by omega, late, late⟩, body.extract_data among, List.getElem?_eq_getElem among]
    rfl
  · rw [if_neg (by omega), if_neg late, List.getElem?_eq_none (by omega)]
    rfl

/-- **The entries of a record are loaded.** -/
theorem load_eq (some : body.entries ≠ []) :
    level.emptyPalette.load body.start.toNat body.entries.length body.data.toArray
      (Walk.entryStride level) = .ok body.palette := by
  have count : body.entries.length ≠ 0 := Nat.ne_of_gt (List.length_pos_iff.mpr some)
  have size : body.entries.length * Walk.entryStride level ≤ body.data.toArray.size :=
    Nat.le_of_eq (by rw [List.size_toArray, body.length_data])
  rw [level.load_emptyPalette count (body.fits some) size]
  unfold palette
  rw [if_neg some, ← body.toList_write]

end PaletteBody

/-! ## Colormaps -/

namespace Colormap

/-- A ramp is set as far as there is room. -/
theorem exists_ramp (colors : Nat) {count : Nat} {palette : Palette}
    (fits : count ≤ palette.capacity) (few : count ≤ 0x10000) :
    ∃ ramped, ramp colors count palette = .ok ramped ∧ ramped.capacity = palette.capacity := by
  induction count with
  | zero => exact ⟨palette, rfl, rfl⟩
  | succ count ih =>
    obtain ⟨ramped, ran, capacity⟩ := ih (by omega) (by omega)
    have room : count < ramped.capacity := by omega
    obtain ⟨changed, set, capacity'⟩ := ramped.exists_set (.ofBytes (rampLevel colors count)
      (rampLevel colors count) (rampLevel colors count) 255) room few
    refine ⟨changed, ?_, capacity'.trans capacity⟩
    rw [ramp, ran]
    exact set

/-- There are default colours for every depth up to 8. -/
theorem exists_default (level : Level) {colors : Nat} (few : colors ≤ 256) :
    ∃ palette, default level colors = .ok palette ∧ colors ≤ palette.capacity := by
  cases level with
  | one =>
    refine ⟨_, rfl, ?_⟩
    show colors ≤ (defaultColors.extract 0 colors).size
    have size : defaultColors.size = 256 := by decide +kernel
    rw [Array.size_extract, size]
    omega
  | two =>
    have room : colors ≤ (Palette.withCapacity colors).capacity := Nat.le_refl colors
    obtain ⟨ramped, ran, capacity⟩ := exists_ramp colors room (by omega)
    exact ⟨ramped, ran, Nat.le_of_eq capacity.symm⟩

/-- A colormap that cannot tell its two colours apart is repaired. -/
theorem exists_repair {palette : Palette} (fits : 2 ≤ palette.capacity) :
    ∃ repaired, repair palette = .ok repaired := by
  unfold repair
  split
  · obtain ⟨grown, resized, capacity⟩ := palette.exists_resize fits (by decide)
    have room : 1 < grown.capacity := by omega
    obtain ⟨changed, set, -⟩ := grown.exists_set (.ofBytes 255 255 255 255) room (by decide)
    exact ⟨changed, by rw [resized]; exact set⟩
  · exact ⟨palette, rfl⟩

/-- An empty palette is as good as none. -/
theorem make_emptyPalette (level : Level) (depth : Nat) :
    make level (some level.emptyPalette) depth = make level none depth := rfl

/-- Colours to begin with are those of a palette, or the default ones. -/
theorem exists_base (level : Level) (loaded : Option Palette) {colors : Nat}
    (capacity : ∀ palette ∈ loaded, palette.capacity = level.paletteCapacity)
    (few : colors ≤ 256) :
    ∃ palette, base level loaded colors = .ok palette ∧ colors ≤ palette.capacity := by
  have defaults := exists_default level few
  cases loaded with
  | none => exact defaults
  | some palette =>
    unfold base
    dsimp only
    split
    · exact defaults
    · refine ⟨palette, rfl, ?_⟩
      rw [capacity palette rfl]
      exact Nat.le_trans few level.le_paletteCapacity

/-- **There is a colormap for every supported depth.** -/
theorem exists_make (level : Level) (loaded : Option Palette) {depth : Nat}
    (capacity : ∀ palette ∈ loaded, palette.capacity = level.paletteCapacity)
    (supported : depth ∈ Bitmap.supportedDepths) :
    ∃ colormap, make level loaded depth = .ok colormap := by
  unfold make
  by_cases deep : 16 ≤ depth ∨ depth = 0
  · exact ⟨none, if_pos deep⟩
  rw [if_neg deep]
  have few : Size.values depth ≤ 256 := by
    have listed := Bitmap.mem_supportedDepths.mp supported
    obtain rfl | rfl | rfl | rfl : depth = 1 ∨ depth = 2 ∨ depth = 4 ∨ depth = 8 := by omega
    all_goals decide
  obtain ⟨palette, based, fits⟩ := exists_base level loaded capacity few
  have last : ∀ grown : Palette, Size.values depth ≤ grown.capacity → ∃ colormap,
      (if depth = 1 then repair grown >>= fun palette => pure (some palette)
        else Except.ok grown >>= fun palette => pure (some palette)) = .ok colormap := by
    intro grown room
    by_cases single : depth = 1
    · rw [single] at room
      obtain ⟨repaired, done⟩ := exists_repair room
      rw [if_pos single, done]
      exact ⟨_, rfl⟩
    · rw [if_neg single]
      exact ⟨_, rfl⟩
  dsimp only
  rw [based]
  by_cases short : palette.count < Size.values depth
  · obtain ⟨grown, resized, capacity⟩ := palette.exists_resize fits (by omega)
    obtain ⟨colormap, made⟩ := last grown (by omega)
    refine ⟨colormap, (if_pos short).trans ?_⟩
    rw [resized]
    exact made
  · obtain ⟨colormap, made⟩ := last palette fits
    exact ⟨colormap, (if_neg short).trans made⟩

/-- A repair takes no colour away. -/
theorem count_le_of_repair {palette repaired : Palette} (ran : repair palette = .ok repaired) :
    palette.count ≤ repaired.count := by
  unfold repair at ran
  split at ran
  · obtain ⟨grown, resized, ran⟩ := exists_of_except_bind ran
    refine Nat.le_trans ?_ (Palette.count_le_of_set ran)
    rw [Palette.count_resize resized]
    exact Nat.le_max_left _ _
  · cases ran
    exact Nat.le_refl _

/-- **A colormap has a colour for every sample**, and only bitmaps of 16 bits and more
have none. -/
theorem of_make {level : Level} {loaded : Option Palette} {depth : Nat}
    {colormap : Option Palette} (made : make level loaded depth = .ok colormap)
    (some : depth ≠ 0) :
    (colormap.isSome ↔ depth < 16) ∧ ∀ palette ∈ colormap, Size.values depth ≤ palette.count := by
  unfold make at made
  split at made
  · next deep =>
    cases made
    exact ⟨⟨nofun, fun shallow => by omega⟩, nofun⟩
  · next shallow =>
    obtain ⟨palette, -, made⟩ := exists_of_except_bind made
    obtain ⟨grown, filled, made⟩ := exists_of_except_ite_bind made
    obtain ⟨repaired, kept, made⟩ := exists_of_except_ite_bind made
    cases made
    have colors : Size.values depth ≤ grown.count := by
      split at filled
      · rw [Palette.count_resize filled]
        exact Nat.le_max_right _ _
      · next many =>
        cases filled
        exact Nat.le_of_not_lt many
    have more : grown.count ≤ repaired.count := by
      split at kept
      · exact count_le_of_repair kept
      · cases kept
        exact Nat.le_refl _
    refine ⟨⟨fun _ => by omega, fun _ => rfl⟩, ?_⟩
    rintro _ ⟨⟩
    exact Nat.le_trans colors more

end Colormap

/-! ## Images -/

namespace BitmapBody

variable {level : Level} (body : BitmapBody level)

/-- The colour space is that of the format. -/
theorem colorSpace_format (colormap : Option Palette) :
    (body.format colormap).colorSpace = .ok body.space := by
  show colorSpaceOf body.front.depth (Bitmap.modelOf body.front.depth) = _
  unfold space
  obtain same | same | same | same | same | same := Bitmap.mem_supportedDepths.mp body.supported
  all_goals rw [same]; rfl

/-- There is memory for the image. -/
theorem make_blank :
    PixelBuffer.make body.front.width body.front.height body.space = .ok body.blank := by
  have pixels : body.front.width * body.front.height ≤ 0x4000 * 0x4000 :=
    Nat.mul_le_mul body.width_le body.height_le
  have components : body.space.components ≤ 3 := by
    unfold space
    split <;> decide
  have samples : body.front.width * body.front.height * body.space.components
      ≤ 0x4000 * 0x4000 * 3 := Nat.mul_le_mul pixels components
  have count : PixelBuffer.sampleCount? body.front.width body.front.height body.space
      = some (body.front.width * body.front.height * body.space.components) := by
    have inner := Size.mul?_eq_some.mpr
      ⟨Eq.refl (body.front.width * body.front.height), Nat.lt_of_le_of_lt pixels (by decide)⟩
    have outer := Size.mul?_eq_some.mpr
      ⟨Eq.refl (body.front.width * body.front.height * body.space.components),
        Nat.lt_of_le_of_lt samples (by decide)⟩
    unfold PixelBuffer.sampleCount?
    rw [inner]
    exact outer
  have granted : Size.allocatable (body.front.width * body.front.height * body.space.components
      * PixelBuffer.sampleBytes) = true := by
    unfold Size.allocatable PixelBuffer.sampleBytes
    rw [decide_eq_true_eq]
    omega
  unfold PixelBuffer.make
  rw [count]
  dsimp only
  rw [if_pos granted]
  rfl

end BitmapBody

end WpgRaster
