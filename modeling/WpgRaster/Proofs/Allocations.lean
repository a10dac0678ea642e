import WpgRaster.Proofs.Color.Palettes
import WpgRaster.Pixel.Buffer

/-!
# Memory that is not to be had

An image and a palette ask for memory before they take it, and report how many bytes they asked
for if it is refused. The number of samples of an image is checked to fit a word, and the number of
colours is bounded by the capacity of a palette, but the number of their bytes is computed with no
check (`RasterError.starved`). So it is reported, and exact, below `2 ^ 63` samples and below
`2 ^ 61` colours, and the program ends from there on (`reported_of_starved`).
-/

namespace WpgRaster

/-! ## Requests of images -/

namespace PixelBuffer

variable {width height : Nat} {space : ColorSpace}

/-- **The samples are counted** if their number and that of the pixels fit a word. -/
theorem sampleCount?_of_lt (pixels : width * height < Size.limit)
    (samples : width * height * space.components < Size.limit) :
    sampleCount? width height space = some (width * height * space.components) := by
  unfold sampleCount?
  rw [Size.mul?_eq_some.mpr ⟨rfl, pixels⟩]
  exact Size.mul?_eq_some.mpr ⟨rfl, samples⟩

/-- **They are not counted** if one of these does not. -/
theorem sampleCount?_of_le
    (large : Size.limit ≤ width * height ∨ Size.limit ≤ width * height * space.components) :
    sampleCount? width height space = none := by
  refine Option.eq_none_iff_forall_ne_some.mpr fun count counted => ?_
  obtain ⟨pixels, inner, outer⟩ := Option.bind_eq_some_iff.mp counted
  obtain ⟨rfl, fits⟩ := Size.mul?_eq_some.mp inner
  obtain ⟨rfl, fits'⟩ := Size.mul?_eq_some.mp outer
  omega

/-- An image whose samples cannot be counted is too large. -/
theorem make_of_le
    (large : Size.limit ≤ width * height ∨ Size.limit ≤ width * height * space.components) :
    make width height space = .error (.tooLarge .pixelBuffer Size.largest width) := by
  unfold make
  rw [sampleCount?_of_le large]

/-- Any other one is black if there is memory for its samples, and it is starved otherwise. -/
theorem make_of_lt (pixels : width * height < Size.limit)
    (samples : width * height * space.components < Size.limit) :
    make width height space =
      if Size.allocatable (width * height * space.components * sampleBytes) then
        .ok ⟨width, height, space, Array.replicate (width * height * space.components) 0, 0⟩
      else .error (.starved (width * height * space.components) sampleBytes) := by
  unfold make
  rw [sampleCount?_of_lt pixels samples]

end PixelBuffer

/-! ## Requests of palettes -/

namespace Palette

variable {palette : Palette} {len : Nat}

/-- **A palette that has room to grow fails to do so** exactly if there is no memory for all the
colours that it was to have. -/
theorem resize_eq_error (room : len ≤ palette.capacity) {err : RasterError} :
    palette.resize len = .error err ↔
      (palette.count < len ∧ Size.allocatable (len * entryBytes) = false)
        ∧ err = .starved len entryBytes := by
  unfold resize
  rw [if_neg (Nat.not_lt.mpr room)]
  constructor
  · intro failed
    split at failed
    · cases failed
    · next more =>
      split at failed
      · cases failed
      · next starved =>
        cases failed
        exact ⟨⟨Nat.lt_of_not_le more, Bool.eq_false_iff.mpr starved⟩, rfl⟩
  · rintro ⟨⟨more, starved⟩, rfl⟩
    rw [if_neg (Nat.not_le.mpr more), if_neg (Bool.eq_false_iff.mp starved)]

end Palette

namespace PaletteOp

variable {palette : Palette} {op : PaletteOp}

/-- **An operation that is not refused grows the palette first**, and the rest of it does not
fail. -/
theorem exists_apply_eq_map (word : palette.capacity < Size.limit) (taken : ¬ op.Refused palette) :
    ∃ change : Palette → Palette, op.apply palette = (palette.resize op.reach).map change := by
  cases op with
  | clear =>
    have enough : palette.resize 0 = .ok palette := by
      unfold Palette.resize
      rw [if_neg (Nat.not_lt_zero _), if_pos (Nat.zero_le _)]
    refine ⟨Palette.clear, ?_⟩
    show Except.ok palette.clear = (palette.resize 0).map _
    rw [enough]
    rfl
  | resize len =>
    refine ⟨id, ?_⟩
    show palette.resize len = (palette.resize len).map id
    rw [Except.map_id]
    rfl
  | set index red green blue opacity =>
    refine ⟨fun grown => { grown with
      entries := grown.entries.setIfInBounds index (.ofBytes red green blue opacity) }, ?_⟩
    have room : ¬ palette.capacity ≤ index := taken
    show palette.set index _ = (palette.resize (index + 1)).map _
    unfold Palette.set
    rw [if_neg room]
    cases palette.resize (index + 1) <;> rfl
  | load start count data stride =>
    refine ⟨fun grown => { grown with
      entries := Palette.write data stride start count grown.entries }, ?_⟩
    have possible : ¬ (stride < 3 ∨ palette.capacity < start + count
      ∨ data.size / stride < count) := taken
    show palette.load start count data stride = (palette.resize (start + count)).map _
    unfold Palette.load
    rw [if_neg (by omega), if_neg (by omega), if_neg (by omega)]
    cases palette.resize (start + count) <;> rfl

/-- What is not refused has room. -/
theorem reach_le (taken : ¬ op.Refused palette) : op.reach ≤ palette.capacity := by
  cases op with
  | clear => exact Nat.zero_le _
  | set index red green blue opacity => exact Nat.lt_of_not_le taken
  | resize len => exact Nat.le_of_not_lt taken
  | load start count data stride =>
    exact Nat.le_of_not_lt fun beyond => taken (.inr (.inl beyond))

/-- **An operation that is refused does not ask for memory.** -/
theorem apply_of_refused (refused : op.Refused palette) :
    op.apply palette = .error .narrowPaletteEntry
      ∨ ∃ start count room, op.apply palette = .error (.paletteOverflow start count room) := by
  cases op with
  | clear => exact refused.elim
  | resize len => exact .inr ⟨_, _, _, if_pos refused⟩
  | set index red green blue opacity => exact .inr ⟨_, _, _, if_pos refused⟩
  | load start count data stride =>
    have impossible : stride < 3 ∨ palette.capacity < start + count
      ∨ data.size / stride < count := refused
    show palette.load start count data stride = _
      ∨ ∃ first number room, palette.load start count data stride
        = .error (.paletteOverflow first number room)
    unfold Palette.load
    dsimp only
    split
    · exact .inl rfl
    · split
      · exact .inr ⟨_, _, _, rfl⟩
      · rw [if_pos (by omega)]
        exact .inr ⟨_, _, _, rfl⟩

/-- **An operation that is not refused fails exactly if it is starved**: of all the colours that
the palette was to have. -/
theorem perform_eq_error (word : palette.capacity < Size.limit) (taken : ¬ op.Refused palette)
    {err : RasterError} {after : Palette} :
    op.perform palette = .error err after ↔
      op.Starved palette ∧ err = .starved op.reach Palette.entryBytes ∧ after = palette := by
  obtain ⟨change, grows⟩ := exists_apply_eq_map word taken
  constructor
  · intro failed
    unfold perform at failed
    cases resized : palette.resize op.reach with
    | ok grown =>
      rw [grows, resized] at failed
      cases failed
    | error err =>
      rw [grows, resized] at failed
      cases failed
      obtain ⟨starved, rfl⟩ := (Palette.resize_eq_error (reach_le taken)).mp resized
      exact ⟨starved, rfl, rfl⟩
  · rintro ⟨starved, rfl, rfl⟩
    refine perform_of_error ?_
    rw [grows, (Palette.resize_eq_error (reach_le taken)).mpr ⟨starved, rfl⟩]
    rfl

/-- **Only an operation that is starved reports bytes, or ends the program.** -/
theorem starved_of_perform (word : palette.capacity < Size.limit) {err : RasterError}
    {after : Palette} (failed : op.perform palette = .error err after)
    (told : err = .overflow ∨ ∃ bytes, err = .allocationFailure bytes) :
    ¬ op.Refused palette ∧ op.Starved palette := by
  have taken : ¬ op.Refused palette := by
    intro refused
    obtain narrow | ⟨_, _, _, beyond⟩ := apply_of_refused refused
    · rw [perform_of_error narrow] at failed
      cases failed
      obtain told | ⟨_, told⟩ := told <;> cases told
    · rw [perform_of_error beyond] at failed
      cases failed
      obtain told | ⟨_, told⟩ := told <;> cases told
  exact ⟨taken, ((perform_eq_error word taken).mp failed).1⟩

end PaletteOp

/-! ## What is reported -/

/-- **What is reported when memory is not to be had.** An image is too large exactly if the number
of its pixels or that of its samples does not fit a word. Any other one is black if there is memory
for it. An operation on a palette fails for want of memory exactly if it is starved, and it leaves
the palette as it was. What is then reported are the bytes of all samples, two each, or of all the
colours that the palette was to have, eight each: exactly these, below `2 ^ 63` samples and below
`2 ^ 61` colours. From there on nothing is reported, since the program ends. -/
theorem reported_of_starved (width height : Nat) (space : ColorSpace) {palette : Palette}
    (word : palette.capacity < Size.limit) (op : PaletteOp) :
    ((Size.limit ≤ width * height ∨ Size.limit ≤ width * height * space.components →
        PixelBuffer.make width height space
          = .error (.tooLarge .pixelBuffer Size.largest width))
      ∧ (width * height < Size.limit → width * height * space.components < Size.limit →
        (Size.allocatable (width * height * space.components * 2) = true →
          PixelBuffer.make width height space
            = .ok ⟨width, height, space,
                Array.replicate (width * height * space.components) 0, 0⟩)
        ∧ (Size.allocatable (width * height * space.components * 2) = false →
          PixelBuffer.make width height space
            = if width * height * space.components < 0x8000000000000000
              then .error (.allocationFailure (width * height * space.components * 2))
              else .error .overflow)))
    ∧ (∀ err after, op.perform palette = .error err after →
        (err = .overflow ∨ ∃ bytes, err = .allocationFailure bytes) →
        ¬ op.Refused palette ∧ op.Starved palette)
    ∧ (¬ op.Refused palette → op.Starved palette →
        op.perform palette
          = if op.reach < 0x2000000000000000
            then .error (.allocationFailure (op.reach * 8)) palette
            else .error .overflow palette) := by
  have limit : Size.limit = 0x10000000000000000 := rfl
  refine ⟨⟨PixelBuffer.make_of_le, fun pixels samples => ?_⟩,
    fun _ _ => PaletteOp.starved_of_perform word, fun taken starved => ?_⟩
  · rw [PixelBuffer.make_of_lt pixels samples, show PixelBuffer.sampleBytes = 2 from rfl]
    refine ⟨fun granted => if_pos granted, fun missing => ?_⟩
    rw [if_neg (Bool.eq_false_iff.mp missing)]
    split
    · rw [RasterError.starved_of_lt (by omega)]
    · rw [RasterError.starved_of_le (by omega)]
  · rw [(PaletteOp.perform_eq_error word taken).mpr ⟨starved, rfl, rfl⟩,
      show Palette.entryBytes = 8 from rfl]
    split
    · rw [RasterError.starved_of_lt (by omega)]
    · rw [RasterError.starved_of_le (by omega)]

/-- A column of gray pixels and a palette that both ask for the least memory that is not to be
had. -/
theorem reported_of_starved_least :
    let palette : Palette := .withCapacity 0x1000000000000
    palette.capacity < Size.limit
      ∧ PixelBuffer.make 0x800000000000 1 .luma = .error (.allocationFailure 0x1000000000000)
      ∧ (PaletteOp.resize 0x200000000000).perform palette
        = .error (.allocationFailure 0x1000000000000) palette := by
  intro palette
  have word : palette.capacity < Size.limit := by decide
  obtain ⟨⟨-, image⟩, -, grows⟩ :=
    reported_of_starved 0x800000000000 1 .luma word (.resize 0x200000000000)
  exact ⟨word, (image (by decide) (by decide)).2 (by decide),
    grows (show ¬ 0x1000000000000 < 0x200000000000 by decide) ⟨by decide, by decide⟩⟩

/-- **A row of gray pixels that is as long as half of the memory**: it has fewer than `2 ^ 64`
samples, and the program ends over the number of their bytes. -/
theorem reported_of_halfMemory :
    PixelBuffer.make 9223372036854775808 1 .luma = .error .overflow
      ∧ 9223372036854775808 * 1 < Size.limit
      ∧ 9223372036854775808 * 1 * ColorSpace.luma.components < Size.limit :=
  ⟨rfl, by decide, by decide⟩

end WpgRaster
