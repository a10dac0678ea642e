import WpgRaster.Pixel.Operation
import WpgRaster.Proofs.Wary.Rows

/-!
# Rows of an image

The rows of an image are pieces of its samples that are as long as each other and follow one
another. A row that is written is written to its own piece, so a sample is the last one that was
written at its column of its row (`BufferOp.latest`), whatever was written to other rows before or
behind it (`BufferOp.shows_performAll`).

To begin a row and to commit it fail for rows that the image does not have. To look at a row does
not check for them: its offsets are computed first, and there is no row if they lie behind the
samples of the image (`PixelBuffer.Whole.row?_of_le`). Far enough behind them the offsets do not fit
a word any more, and the program ends (`PixelBuffer.row?_eq`).
-/

namespace WpgRaster

/-! ## Looking at a row -/

namespace PixelBuffer

variable {image : PixelBuffer} {row : Nat}

/-- **What is found when looking at a row**: the samples from its offset up to that of the next
row, if there are so many, as long as a word holds the numbers on the way. -/
theorem row?_eq (image : PixelBuffer) (row : Nat) :
    image.row? row =
      if row + 1 < Size.limit ∧ image.stride < Size.limit
          ∧ (row + 1) * image.stride < Size.limit then
        .ok (image.slice? (row * image.stride) ((row + 1) * image.stride))
      else .error .overflow := by
  unfold row?
  by_cases fits : row + 1 < Size.limit ∧ image.stride < Size.limit
      ∧ (row + 1) * image.stride < Size.limit
  · obtain ⟨next, wide, last⟩ := fits
    have first : row * image.stride < Size.limit :=
      Nat.lt_of_le_of_lt (Nat.mul_le_mul_right _ (Nat.le_succ row)) last
    have sum : Size.add? row 1 = some (row + 1) := Size.add?_eq_some.mpr ⟨rfl, next⟩
    rw [if_pos ⟨next, wide, last⟩, sum, Option.bind_eq_bind, Option.bind_some, offset?_eq,
      offset?_eq, if_pos ⟨wide, first⟩, if_pos ⟨wide, last⟩]
  · have unknown : (Size.add? row 1 >>= image.offset?) = none := by
      refine Option.eq_none_iff_forall_ne_some.mpr fun offset computed => fits ?_
      obtain ⟨_, sum, computed⟩ := Option.bind_eq_some_iff.mp computed
      obtain ⟨rfl, next⟩ := Size.add?_eq_some.mp sum
      rw [offset?_eq] at computed
      split at computed
      · next both => exact ⟨next, both⟩
      · cases computed
    rw [if_neg fits, unknown]
    cases image.offset? row <;> rfl

/-- A whole image has as many samples as its rows together. -/
theorem Whole.size_eq (whole : image.Whole) : image.pixels.size = image.height * image.stride := by
  rw [whole.size, stride, Nat.mul_right_comm, Nat.mul_comm]

/-- The samples of a row of the image are among those of the image. -/
theorem Whole.row_inside (whole : image.Whole) (inside : row < image.height) :
    (row + 1) * image.stride ≤ image.pixels.size := by
  rw [whole.size_eq]
  exact Nat.mul_le_mul_right _ inside

/-- If a row is not empty, then a word that holds the offset behind it holds all the numbers. -/
theorem row?_of_fits (long : 0 < image.stride) (fits : (row + 1) * image.stride < Size.limit) :
    image.row? row = .ok (image.slice? (row * image.stride) ((row + 1) * image.stride)) := by
  have next : row + 1 ≤ (row + 1) * image.stride := Nat.le_mul_of_pos_right _ long
  have stride : image.stride ≤ (row + 1) * image.stride :=
    Nat.le_mul_of_pos_left _ (Nat.succ_pos row)
  rw [row?_eq, if_pos ⟨by omega, by omega, fits⟩]

/-- **A row of the image is found**, and it is the piece with its number. -/
theorem Whole.row?_of_lt (whole : image.Whole) (long : 0 < image.stride)
    (inside : row < image.height) :
    image.row? row
      = .ok (some (image.pixels.extract (row * image.stride) ((row + 1) * image.stride))) := by
  have last := whole.row_inside inside
  have before : row * image.stride ≤ (row + 1) * image.stride :=
    Nat.mul_le_mul_right _ (Nat.le_succ row)
  rw [row?_of_fits long (Nat.lt_of_le_of_lt last whole.word), slice?, if_pos ⟨before, last⟩]

/-- **Any other row is not found**, unless a word does not hold the offset behind it. -/
theorem Whole.row?_of_le (whole : image.Whole) (long : 0 < image.stride)
    (outside : image.height ≤ row) :
    image.row? row
      = if (row + 1) * image.stride < Size.limit then .ok none else .error .overflow := by
  have behind : image.pixels.size < (row + 1) * image.stride := by
    rw [whole.size_eq]
    exact Nat.mul_lt_mul_of_pos_right (Nat.lt_succ_of_le outside) long
  by_cases fits : (row + 1) * image.stride < Size.limit
  · rw [if_pos fits, row?_of_fits long fits, slice?, if_neg (by omega)]
  · rw [if_neg fits, row?_eq, if_neg fun all => fits all.2.2]

/-! ## Rows that are written -/

/-- A row that is written takes no sample away. -/
theorem Whole.writeRow (whole : image.Whole) (row : Nat) (samples : Array UInt16) :
    (image.writeRow row samples).Whole :=
  ⟨(size_overwrite _ _ _).trans whole.size, (size_overwrite _ _ _).trans_lt whole.word⟩

/-- Nor does one that is committed. -/
theorem Whole.commit (whole : image.Whole) (rowsCommitted : Nat) :
    Whole { image with rowsCommitted } :=
  ⟨whole.size, whole.word⟩

/-- **What is written to a row stays within it**, and is found there. -/
theorem Whole.getElem?_writeRow (whole : image.Whole) {other column : Nat}
    (inside : row < image.height) (there : other < image.height)
    (among : column < image.stride) (samples : Array UInt16) :
    (image.writeRow row (samples.extract 0 image.stride)).pixels[other * image.stride + column]?
      = if row = other ∧ column < samples.size then samples[column]?
        else image.pixels[other * image.stride + column]? := by
  have room := whole.row_inside there
  have length : (samples.extract 0 image.stride).toList.length
      = min image.stride samples.size := by
    rw [Array.length_toList, Array.size_extract, Nat.sub_zero]
  show (overwrite image.pixels (row * image.stride)
    (samples.extract 0 image.stride).toList)[other * image.stride + column]? = _
  rw [getElem?_overwrite, length]
  rw [Nat.succ_mul] at room
  obtain above | rfl | below := Nat.lt_trichotomy other row
  · have next : (other + 1) * image.stride ≤ row * image.stride :=
      Nat.mul_le_mul_right _ above
    rw [Nat.succ_mul] at next
    rw [if_neg (by omega), if_neg (by omega)]
  · by_cases written : column < samples.size
    · rw [if_pos (by omega), if_pos ⟨rfl, written⟩, Nat.add_sub_cancel_left,
        Array.getElem?_toList, Array.getElem?_extract, if_pos (by omega), Nat.zero_add]
    · rw [if_neg (by omega), if_neg (fun both => written both.2)]
  · have next : (row + 1) * image.stride ≤ other * image.stride :=
      Nat.mul_le_mul_right _ below
    rw [Nat.succ_mul] at next
    rw [if_neg (by omega), if_neg (by omega)]

end PixelBuffer

/-! ## Operations on rows -/

namespace BufferOp

/-- The sample that an operation writes at a column of a row, if it writes one there. -/
def put? (row column : Nat) : BufferOp → Option UInt16
  | write other samples => if other = row then samples[column]? else none
  | commit _ => none

/-- Nothing is written to other rows. -/
theorem put?_of_ne (op : BufferOp) {row column : Nat} (other : op.row ≠ row) :
    op.put? row column = none := by
  cases op with
  | write _ samples => exact if_neg other
  | commit _ => rfl

/-- **The last sample that was written at a column of a row**, and black if there is none. -/
def latest (ops : List BufferOp) (row column : Nat) : UInt16 :=
  (ops.reverse.findSome? (put? row column)).getD 0

/-- A row of the last samples that were written to it. -/
def latestRow (ops : List BufferOp) (length row : Nat) : Array UInt16 :=
  Array.ofFn fun column : Fin length => latest ops row column

end BufferOp

/-- **What an image shows**: the sample at each column of its rows. -/
structure PixelBuffer.Shows (image : PixelBuffer) (shown : Nat → Nat → UInt16) : Prop where
  /-- The image is whole. -/
  whole : image.Whole
  /-- A sample is found behind the rows above its own. -/
  sample : ∀ row < image.height, ∀ column < image.stride,
    image.pixels[row * image.stride + column]? = some (shown row column)

namespace PixelBuffer

variable {image : PixelBuffer} {shown : Nat → Nat → UInt16}

/-- A new image shows black. -/
theorem Shows.of_make {width height : Nat} {space : ColorSpace}
    (made : make width height space = .ok image) : image.Shows fun _ _ => 0 := by
  have whole := Whole.of_make made
  refine ⟨whole, fun row inside column among => ?_⟩
  have last := whole.row_inside inside
  rw [Nat.succ_mul] at last
  have there : row * image.stride + column < image.pixels.size := by omega
  rw [Array.getElem?_eq_getElem there]
  exact congrArg some ((PixelBuffer.of_make made).1 _ (Array.getElem_mem_toList there))

/-- A row of an image that shows it. -/
theorem Shows.extract_eq (shows : image.Shows shown) {row : Nat} (inside : row < image.height) :
    image.pixels.extract (row * image.stride) ((row + 1) * image.stride)
      = Array.ofFn fun column : Fin image.stride => shown row column := by
  have last := shows.whole.row_inside inside
  rw [Nat.succ_mul] at last ⊢
  refine Array.ext_getElem? fun column => ?_
  rw [Array.getElem?_extract, Array.getElem?_ofFn]
  by_cases among : column < image.stride
  · rw [if_pos (by omega), dif_pos among, shows.sample row inside column among]
  · rw [if_neg (by omega), dif_neg among]

/-- **The rows follow one another**, and there is nothing else in the image. -/
theorem Shows.toList_pixels (shows : image.Shows shown) :
    image.pixels.toList = (List.range image.height).flatMap fun row =>
      (Array.ofFn fun column : Fin image.stride => shown row column).toList := by
  have all : image.pixels.toList = List.ofFn fun i : Fin (image.height * image.stride) =>
      shown (i / image.stride) (i % image.stride) := by
    refine List.ext_getElem? fun i => ?_
    rw [Array.getElem?_toList, List.getElem?_ofFn]
    by_cases inside : i < image.height * image.stride
    · have long : 0 < image.stride := Nat.pos_of_lt_mul_left inside
      have row : i / image.stride < image.height := Nat.div_lt_of_lt_mul (by rwa [Nat.mul_comm])
      have found := shows.sample _ row _ (Nat.mod_lt i long)
      rw [Nat.mul_comm, Nat.div_add_mod] at found
      rw [found, dif_pos inside]
    · rw [dif_neg inside, Array.getElem?_eq_none (by rw [shows.whole.size_eq]; omega)]
  rw [all, List.ofFn_mul, List.flatMap_def]
  refine congrArg List.flatten (List.ext_getElem (by simp) fun row _ inside => ?_)
  rw [List.getElem_ofFn, List.getElem_map, List.getElem_range, Array.toList_ofFn]
  refine congrArg List.ofFn (funext fun column => ?_)
  have long : 0 < image.stride := Nat.zero_lt_of_lt column.isLt
  show shown ((row * image.stride + column) / image.stride)
    ((row * image.stride + column) % image.stride) = _
  rw [Nat.mul_comm, Nat.mul_add_div long, Nat.div_eq_of_lt column.isLt, Nat.add_zero,
    Nat.mul_add_mod, Nat.mod_eq_of_lt column.isLt]

end PixelBuffer

namespace BufferOp

variable {image after : PixelBuffer} {shown : Nat → Nat → UInt16} {err : RasterError}

/-- **An operation on a row that the image does not have fails**, and the image stays as it
was. -/
theorem perform_of_le (op : BufferOp) (outside : image.height ≤ op.row) :
    op.perform image = .error (.rowOutOfBounds op.row image.height) image := by
  have begun : PixelBuffer.beginRow op.row image
      = .error (.rowOutOfBounds op.row image.height) image := if_pos outside
  cases op with
  | write row samples =>
    show EStateM.bind (PixelBuffer.beginRow row) _ image = _
    unfold EStateM.bind
    rw [show PixelBuffer.beginRow row image = _ from begun]
  | commit row => exact if_pos outside

/-- What an operation makes of an image that has its row. -/
def behind (image : PixelBuffer) : BufferOp → PixelBuffer
  | write row samples => image.writeRow row (samples.extract 0 image.stride)
  | commit row => { image with rowsCommitted := max image.rowsCommitted (row + 1) }

/-- **On any other row it is carried out.** -/
theorem perform_of_lt (op : BufferOp) (inside : op.row < image.height) :
    op.perform image = .ok () (op.behind image) := by
  have begun : PixelBuffer.beginRow op.row image = .ok image.stride image :=
    if_neg (Nat.not_le_of_lt inside)
  cases op with
  | write row samples =>
    show EStateM.bind (PixelBuffer.beginRow row) _ image = _
    unfold EStateM.bind
    rw [show PixelBuffer.beginRow row image = _ from begun]
    rfl
  | commit row => exact if_neg (Nat.not_le_of_lt inside)

/-- **An operation on one row leaves the others as they are**, and on its own row what it wrote
last is shown. -/
theorem shows_behind (op : BufferOp) (shows : image.Shows shown) (inside : op.row < image.height) :
    (op.behind image).Shows fun row column => (op.put? row column).getD (shown row column) := by
  cases op with
  | commit row => exact ⟨shows.whole.commit _, shows.sample⟩
  | write row samples =>
    refine ⟨shows.whole.writeRow _ _, fun other there column among => ?_⟩
    have found := shows.whole.getElem?_writeRow inside there among samples
    rw [shows.sample other there column among] at found
    refine found.trans ?_
    show _ = some ((if row = other then samples[column]? else none).getD (shown other column))
    by_cases same : row = other
    · by_cases written : column < samples.size
      · rw [if_pos ⟨same, written⟩, if_pos same, Array.getElem?_eq_getElem written]
        rfl
      · rw [if_neg (fun both => written both.2), if_pos same,
          Array.getElem?_eq_none (Nat.le_of_not_lt written)]
        rfl
    · rw [if_neg (fun both => same both.1), if_neg same]
      rfl

/-- Operations keep the measures of an image. -/
theorem measures_behind (op : BufferOp) (image : PixelBuffer) :
    (op.behind image).width = image.width ∧ (op.behind image).height = image.height
      ∧ (op.behind image).colorSpace = image.colorSpace := by
  cases op <;> exact ⟨rfl, rfl, rfl⟩

/-- **What is written last is shown**, by an image that carried out any operations, and what was
shown before where nothing is written. -/
theorem shows_performAll (ops : List BufferOp) (shows : image.Shows shown) :
    (performAll ops image).Shows (fun row column =>
        (ops.reverse.findSome? (put? row column)).getD (shown row column))
      ∧ (performAll ops image).width = image.width ∧ (performAll ops image).height = image.height
      ∧ (performAll ops image).colorSpace = image.colorSpace := by
  induction ops generalizing image shown with
  | nil => exact ⟨shows, rfl, rfl, rfl⟩
  | cons op ops ih =>
    have newest : ∀ row column, ((op :: ops).reverse.findSome? (put? row column)).getD
          (shown row column)
        = (ops.reverse.findSome? (put? row column)).getD
          ((op.put? row column).getD (shown row column)) := by
      intro row column
      rw [List.reverse_cons, List.findSome?_append, List.findSome?_singleton, Option.getD_or]
    simp only [newest]
    unfold performAll
    obtain inside | outside := Nat.lt_or_ge op.row image.height
    · rw [op.perform_of_lt inside]
      obtain ⟨width, height, space⟩ := op.measures_behind image
      obtain ⟨shows', width', height', space'⟩ := ih (op.shows_behind shows inside)
      exact ⟨shows', width'.trans width, height'.trans height, space'.trans space⟩
    · rw [op.perform_of_le outside]
      refine ih ⟨shows.whole, fun row inside column among => ?_⟩
      rw [op.put?_of_ne (by omega)]
      exact shows.sample row inside column among

/-- **The rows of an image are what was written to them last.** Whatever operations a new image
carried out, also when some of them failed, its rows follow one another and make up the image,
each of them is found, and it holds the last sample that was written at each column. Operations
fail for exactly the rows that the image does not have. Who looks for such a row does not find it,
as long as the samples up to its end can be counted in a word, and ends the program otherwise. -/
theorem rows_performAll {width height : Nat} {space : ColorSpace} {blank : PixelBuffer}
    (made : PixelBuffer.make width height space = .ok blank) (long : 0 < width * space.components)
    (ops : List BufferOp) {image : PixelBuffer} (ran : performAll ops blank = image) :
    (image.pixels.toList = (List.range height).flatMap fun row =>
        (latestRow ops (width * space.components) row).toList)
      ∧ (∀ row < height,
          image.row? row = .ok (some (latestRow ops (width * space.components) row))
          ∧ image.pixels.extract (row * (width * space.components))
              ((row + 1) * (width * space.components))
            = latestRow ops (width * space.components) row)
      ∧ (∀ row, height ≤ row → image.row? row =
          if (row + 1) * (width * space.components) < Size.limit then .ok none
          else .error .overflow)
      ∧ ∀ op : BufferOp,
          (op.row < height → ∃ after, op.perform image = .ok () after)
          ∧ (height ≤ op.row →
            op.perform image = .error (.rowOutOfBounds op.row height) image) := by
  obtain ⟨shows, measures⟩ := shows_performAll ops (PixelBuffer.Shows.of_make made)
  obtain ⟨blankWidth, blankHeight, blankSpace⟩ := PixelBuffer.measures_of_make made
  rw [ran, blankWidth, blankHeight, blankSpace] at measures
  rw [ran] at shows
  obtain ⟨rfl, rfl, rfl⟩ := measures
  refine ⟨shows.toList_pixels, fun row inside => ?_,
    fun row outside => shows.whole.row?_of_le long outside,
    fun op => ⟨fun inside => ⟨_, op.perform_of_lt inside⟩, op.perform_of_le⟩⟩
  have piece := shows.extract_eq inside
  exact ⟨(shows.whole.row?_of_lt long inside).trans (congrArg (Except.ok ∘ some) piece),
    piece⟩

/-- Two rows of two gray pixels, one written twice, and a row that is not there. -/
theorem rows_performAll_twice :
    PixelBuffer.make 2 2 .luma = .ok FrameFormat.squareImage
      ∧ 0 < 2 * ColorSpace.luma.components
      ∧ (performAll [write 0 #[1, 2], write 1 #[3, 4], commit 0, write 1 #[5], write 2 #[6]]
          FrameFormat.squareImage).row? 1 = .ok (some #[5, 4]) :=
  ⟨by decide, by decide,
    ((rows_performAll (by decide : PixelBuffer.make 2 2 .luma = .ok FrameFormat.squareImage)
      (by decide) _ rfl).2.1 1 (by decide)).1⟩

end BufferOp

namespace PixelBuffer

/-- An image of one pixel. -/
def single : PixelBuffer := ⟨1, 1, .rgba, #[0, 0, 0, 0], 0⟩

/-- **An image of one row, and a row far beyond it.** Row `2 ^ 62` would begin `2 ^ 64` samples
behind the first one, which fits no word. The image does not have that row, and the program ends
over it. -/
theorem row?_beyond : make 1 1 .rgba = .ok single ∧ 0 < 1 * ColorSpace.rgba.components
    ∧ 4611686018427387904 < Size.limit ∧ ¬ 4611686018427387904 < single.height
    ∧ single.row? 4611686018427387904 = .error .overflow := by
  refine ⟨by decide, by decide, by decide, by decide, ?_⟩
  rw [row?_eq]
  exact if_neg (by decide)

end PixelBuffer

end WpgRaster
