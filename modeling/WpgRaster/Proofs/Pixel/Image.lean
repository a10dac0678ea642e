import WpgRaster.Pixel.Buffer
import WpgRaster.Proofs.Row.Assembly
import WpgRaster.Frame.Decode

/-!
# What an image shows of its rows

Rows are written into an image from top to bottom, and each of them stays
in its place. So the samples at the top of an image (`PixelBuffer.top`)
depend on the rows at the top only: two images that were handed the same
first rows agree there, whatever came later (`top_eq_of_isPrefix`). What
lies below the rows handed over is as it was before the first of them
(`Painted.below`).

An image that refuses a row is left as it was, so an image is known as soon
as the rows are known that it was handed.
-/

namespace WpgRaster

/-! ## Images -/

namespace PixelBuffer

/-- The samples of the first rows of an image. -/
def top (image : PixelBuffer) (rows : Nat) : List UInt16 :=
  image.pixels.toList.take (rows * image.stride)

/-- The samples of all rows behind the first ones. -/
def below (image : PixelBuffer) (rows : Nat) : List UInt16 :=
  image.pixels.toList.drop (rows * image.stride)

/-- The top of a top. -/
theorem take_top {image : PixelBuffer} {rows more : Nat} (few : rows ≤ more) :
    (image.top more).take (rows * image.stride) = image.top rows := by
  unfold top
  rw [List.take_take, Nat.min_eq_left (Nat.mul_le_mul_right _ few)]

/-- A row of an image is known if its top is known as far as the row. -/
theorem row?_eq_of_top_eq {image image' : PixelBuffer} {row rows : Nat} (among : row < rows)
    (stride : image.stride = image'.stride) (size : image.pixels.size = image'.pixels.size)
    (same : image.top rows = image'.top rows) : image.row? row = image'.row? row := by
  have offsets : image'.offset? = image.offset? := by
    funext row
    rw [offset?_eq, offset?_eq, stride]
  unfold row?
  rw [offsets]
  split
  · next first behind _ computed =>
    obtain ⟨next, sum, computed⟩ := Option.bind_eq_some_iff.mp computed
    obtain ⟨rfl, -⟩ := Size.add?_eq_some.mp sum
    have last : behind ≤ rows * image.stride := by
      rw [offset?_eq] at computed
      split at computed
      · cases computed
        exact Nat.mul_le_mul_right _ among
      · cases computed
    refine congrArg Except.ok ?_
    unfold slice?
    rw [← size]
    split
    · refine congrArg some (Array.toList_inj.mp ?_)
      simp only [Array.toList_extract, List.extract_eq_take_drop, ← List.drop_take]
      unfold top at same
      rw [← stride] at same
      -- the samples in front of an offset are cut from the top
      rw [← Nat.min_eq_left last, ← List.take_take, ← List.take_take, same]
    · rfl
  · rfl

/-- A new image is black and nothing of it is committed. -/
theorem of_make {width height : Nat} {space : ColorSpace} {image : PixelBuffer}
    (made : make width height space = .ok image) :
    (∀ sample ∈ image.pixels.toList, sample = 0) ∧ image.rowsCommitted = 0 := by
  unfold make at made
  repeat' split at made
  all_goals cases made
  refine ⟨fun sample among => ?_, rfl⟩
  rw [Array.toList_replicate] at among
  exact List.eq_of_mem_replicate among

/-- An image has the size and the colour space it was made with. -/
theorem measures_of_make {width height : Nat} {space : ColorSpace}
    {image : PixelBuffer} (made : make width height space = .ok image) :
    image.width = width ∧ image.height = height ∧ image.colorSpace = space := by
  unfold make at made
  split at made
  · cases made
  · split at made
    · cases made
      exact ⟨rfl, rfl, rfl⟩
    · cases made

end PixelBuffer

/-! ## Rows painted -/

namespace Unpacker

variable {unpacker after : Unpacker PixelBuffer} {row : Nat} {bytes : Bytes}

/-- **What an image does with a row**: it refuses one that it does not have
and one that has no room for the samples, and it is then left as it was. That
happens to it also if no word counts the samples. -/
theorem consume_eq (unpacker : Unpacker PixelBuffer) (row : Nat) (bytes : Bytes) :
    RowConsumer.consume row bytes unpacker =
      if Size.limit ≤ unpacker.expander.sampleCount then .error .overflow unpacker
      else if unpacker.sink.height ≤ row then
        .error (.rowOutOfBounds row unpacker.sink.height) unpacker
      else if unpacker.sink.stride < unpacker.expander.sampleCount then
        .error (.dimensionMismatch .rowLength unpacker.expander.sampleCount unpacker.sink.stride)
          unpacker
      else .ok () ⟨unpacker.expander,
        { unpacker.sink.writeRow row (unpacker.expander.expand bytes) with
          rowsCommitted := max unpacker.sink.rowsCommitted (row + 1) },
        unpacker.clamped + unpacker.expander.clampedIn bytes⟩ := by
  show consumeRow row bytes unpacker = _
  unfold consumeRow
  dsimp only
  by_cases word : Size.limit ≤ unpacker.expander.sampleCount
  · rw [if_pos word, if_pos word]
  rw [if_neg word, if_neg word]
  by_cases outside : unpacker.sink.height ≤ row
  · have refused : RowSink.beginRow row unpacker.sink
        = .error (.rowOutOfBounds row unpacker.sink.height) unpacker.sink := if_pos outside
    rw [if_pos outside]
    simp only [refused]
  · have begun : RowSink.beginRow row unpacker.sink = .ok unpacker.sink.stride unpacker.sink :=
      if_neg outside
    rw [if_neg outside]
    simp only [begun]
    split
    · rfl
    · have committed : RowSink.commitRow row (RowSink.writeRow row
          (unpacker.expander.expand bytes) unpacker.sink)
          = .ok () { unpacker.sink.writeRow row (unpacker.expander.expand bytes) with
              rowsCommitted := max unpacker.sink.rowsCommitted (row + 1) } := if_neg outside
      simp only [committed]

/-- A row that is taken has its samples written, and they end where the next
row begins. -/
theorem consume_ok (taken : RowConsumer.consume row bytes unpacker = .ok () after) :
    after = ⟨unpacker.expander,
        { unpacker.sink.writeRow row (unpacker.expander.expand bytes) with
          rowsCommitted := max unpacker.sink.rowsCommitted (row + 1) },
        unpacker.clamped + unpacker.expander.clampedIn bytes⟩
      ∧ (unpacker.expander.expand bytes).size ≤ unpacker.sink.stride := by
  rw [consume_eq] at taken
  repeat' split at taken
  all_goals cases taken
  next wide =>
    refine ⟨rfl, ?_⟩
    rw [Expander.size_expand]
    exact Nat.le_of_not_lt wide

/-- **A row that is refused leaves the image as it was.** -/
theorem consume_error {err : RasterError}
    (refused : RowConsumer.consume row bytes unpacker = .error err after) : after = unpacker := by
  rw [consume_eq] at refused
  repeat' split at refused
  all_goals cases refused
  all_goals rfl

/-- **What became of an image that took so many rows.** -/
structure Painted (start : Unpacker PixelBuffer) (count : Nat) (unpacker : Unpacker PixelBuffer) :
    Prop where
  /-- Rows are as long as they were. -/
  stride : unpacker.sink.stride = start.sink.stride
  /-- There are as many samples. -/
  size : unpacker.sink.pixels.size = start.sink.pixels.size
  /-- The rows are committed. -/
  committed : unpacker.sink.rowsCommitted = max start.sink.rowsCommitted count
  /-- Below them nothing has changed. -/
  below : unpacker.sink.below count = start.sink.below count

/-- A further row is painted below the others. -/
theorem Painted.more {start : Unpacker PixelBuffer} (painted : Painted start row unpacker)
    (taken : RowConsumer.consume row bytes unpacker = .ok () after) :
    Painted start (row + 1) after ∧ after.sink.top row = unpacker.sink.top row := by
  obtain ⟨rfl, fits⟩ := consume_ok taken
  have stride := painted.stride
  generalize unpacker.expander.expand bytes = samples at fits
  have written : ∀ i, (PixelBuffer.overwrite unpacker.sink.pixels (row * unpacker.sink.stride)
      samples.toList)[i]? = if i < unpacker.sink.pixels.size ∧ row * unpacker.sink.stride ≤ i
        ∧ i < row * unpacker.sink.stride + samples.toList.length
      then samples.toList[i - row * unpacker.sink.stride]? else unpacker.sink.pixels[i]? :=
    fun i => PixelBuffer.getElem?_overwrite _ _ i _
  rw [Array.length_toList] at written
  have next : (row + 1) * unpacker.sink.stride
      = row * unpacker.sink.stride + unpacker.sink.stride := Nat.succ_mul _ _
  refine ⟨⟨stride, ?_, ?_, ?_⟩, ?_⟩
  · exact (PixelBuffer.size_overwrite _ _ _).trans painted.size
  · show max unpacker.sink.rowsCommitted (row + 1) = _
    rw [painted.committed]
    omega
  · -- behind the row that is painted, the image is as before
    have before := congrArg (List.drop unpacker.sink.stride) painted.below
    unfold PixelBuffer.below at before ⊢
    rw [List.drop_drop, List.drop_drop, ← stride, ← next] at before
    rw [← stride, ← before]
    refine List.ext_getElem? fun i => ?_
    show (List.drop ((row + 1) * unpacker.sink.stride) (PixelBuffer.overwrite _ _ _).toList)[i]? = _
    rw [List.getElem?_drop, List.getElem?_drop, Array.getElem?_toList, Array.getElem?_toList,
      written, if_neg (by omega)]
  · -- and so it is in front of the row
    unfold PixelBuffer.top
    refine List.ext_getElem? fun i => ?_
    show (List.take (row * unpacker.sink.stride) (PixelBuffer.overwrite _ _ _).toList)[i]? = _
    rw [List.getElem?_take, List.getElem?_take]
    split
    · next inside =>
      rw [Array.getElem?_toList, Array.getElem?_toList, written, if_neg (by omega)]
    · rfl

/-- **Rows handed to an image are painted.** -/
theorem painted_of_handed {start : Unpacker PixelBuffer} {rows : List Bytes}
    (handed : Handed start rows unpacker) : Painted start rows.length unpacker := by
  induction handed with
  | none => exact ⟨rfl, rfl, (Nat.max_eq_left (Nat.zero_le _)).symm, rfl⟩
  | more _ taken ih =>
    rw [List.length_append, List.length_singleton]
    exact (ih.more taken).1

/-- Rows do not change the size or the colour space of an image. -/
theorem measures_of_handed {start : Unpacker PixelBuffer} {rows : List Bytes}
    (handed : Handed start rows unpacker) :
    unpacker.sink.width = start.sink.width ∧ unpacker.sink.height = start.sink.height
      ∧ unpacker.sink.colorSpace = start.sink.colorSpace := by
  induction handed with
  | none => exact ⟨rfl, rfl, rfl⟩
  | more _ taken ih =>
    obtain ⟨rfl, -⟩ := consume_ok taken
    exact ih

/-- Further rows leave the top alone. -/
theorem top_of_handed {start : Unpacker PixelBuffer} {rows all : List Bytes}
    (handed : Handed start rows unpacker) (handed' : Handed start all after)
    (first : rows <+: all) : unpacker.sink.top rows.length = after.sink.top rows.length := by
  induction handed' with
  | none =>
    obtain rfl := List.prefix_nil.mp first
    rw [handed.unique .none]
  | @more earlier row before after' taken consumed ih =>
    obtain rfl | shorter := List.prefix_concat_iff.mp first
    · rw [handed.unique (taken.more consumed)]
    · obtain ⟨painted, same⟩ := (painted_of_handed taken).more consumed
      have stride := painted.stride.trans (painted_of_handed taken).stride.symm
      rw [ih shorter, ← PixelBuffer.take_top shorter.length_le, ← same, ← stride,
        PixelBuffer.take_top shorter.length_le]

/-- **The same first rows make the same top**, whatever comes behind them. -/
theorem top_eq_of_isPrefix {start : Unpacker PixelBuffer} {rows all all' : List Bytes}
    (handed : Handed start all unpacker) (handed' : Handed start all' after)
    (first : rows <+: all) (first' : rows <+: all') :
    unpacker.sink.top rows.length = after.sink.top rows.length := by
  obtain ⟨earlier, shared⟩ := handed.of_isPrefix first
  rw [← top_of_handed shared handed first, top_of_handed shared handed' first']

end Unpacker

end WpgRaster
