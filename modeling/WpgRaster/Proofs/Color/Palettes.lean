import WpgRaster.Color.PaletteOperation
import WpgRaster.Proofs.Container.Colors

/-!
# What becomes of a palette

An operation on a palette is refused if it asks for more colours than there is room for, or for
more entries than there are bytes (`PaletteOp.Refused`). Otherwise, if there is memory for it, it
leads to a palette that is known by the colours that it shows (`PaletteOp.Shows`): those that were
put there, those that were there before, and black in a gap between them. Only one operation takes
colours away, and none makes them more than there is room for.
-/

namespace WpgRaster

/-- **A palette that is bounded by its capacity**, which is a word. -/
structure Palette.Bounded (palette : Palette) : Prop where
  /-- There are no more colours than there is room for. -/
  count_le : palette.count ≤ palette.capacity
  /-- The capacity is a word. -/
  word : palette.capacity < Size.limit

theorem Palette.bounded_withCapacity {capacity : Nat} (word : capacity < Size.limit) :
    (withCapacity capacity).Bounded :=
  ⟨Nat.zero_le capacity, word⟩

/-- The colour in the bytes of an entry, which lies behind the entries before it. -/
def PaletteEntry.inBytes (data : Bytes) (stride i : Nat) : PaletteEntry :=
  .ofBytes (data[i * stride]?.getD 0) (data[i * stride + 1]?.getD 0)
    (data[i * stride + 2]?.getD 0) (if 3 < stride then data[i * stride + 3]?.getD 0 else 255)

namespace PaletteOp

/-- How many colours a palette has at least behind an operation. -/
def reach : PaletteOp → Nat
  | clear => 0
  | set index .. => index + 1
  | resize len => len
  | load start count .. => start + count

/-- The colour that an operation puts at an index, if it puts one there. -/
def put? (i : Nat) : PaletteOp → Option PaletteEntry
  | clear | resize _ => none
  | set index red green blue opacity =>
    if i = index then some (.ofBytes red green blue opacity) else none
  | load start count data stride =>
    if start ≤ i ∧ i < start + count then some (.inBytes data stride (i - start)) else none

/-- **The colour at an index behind an operation**: the one that was put there or else the one
that was there, and black in a gap that the operation reaches over. -/
def shown? (palette : Palette) (i : Nat) : PaletteOp → Option PaletteEntry
  | clear => none
  | op => (op.put? i).or ((palette.get? i).or (if i < op.reach then some .black else none))

/-- **How many colours there are behind an operation.** None but one takes colours away. -/
def countBehind (palette : Palette) : PaletteOp → Nat
  | clear => 0
  | op => max palette.count op.reach

/-- **Operations that ask for what cannot be**: for more colours than there is room for, or for
more entries than there are bytes. -/
def Refused (palette : Palette) : PaletteOp → Prop
  | clear => False
  | set index .. => palette.capacity ≤ index
  | resize len => palette.capacity < len
  | load start count data stride =>
    stride < 3 ∨ palette.capacity < start + count ∨ data.size / stride < count

/-- **Operations that lack memory**: the palette has to grow, and memory for it is not to be
had. -/
def Starved (palette : Palette) (op : PaletteOp) : Prop :=
  palette.count < op.reach ∧ Size.allocatable (op.reach * Palette.entryBytes) = false

/-- **What an operation leads to** that is neither refused nor starved. -/
structure Shows (palette : Palette) (op : PaletteOp) (after : Palette) : Prop where
  /-- It asked for what can be. -/
  taken : ¬ op.Refused palette
  /-- There was memory for it. -/
  granted : ¬ op.Starved palette
  /-- The capacity is what it was. -/
  capacity_eq : after.capacity = palette.capacity
  /-- There are so many colours. -/
  count_eq : after.count = op.countBehind palette
  /-- These are the colours. -/
  get?_eq : ∀ i, after.get? i = op.shown? palette i

end PaletteOp

namespace PaletteEntry

variable {data : Bytes} {stride : Nat}

/-- The entries of some bytes are what is read of them piece by piece. -/
theorem ofEntryBytes_extract (wide : 3 ≤ stride) (i : Nat) :
    ofEntryBytes (data.extract (i * stride) ((i + 1) * stride)) stride = inBytes data stride i := by
  have byte : ∀ {offset : Nat}, offset < stride →
      (data.extract (i * stride) ((i + 1) * stride))[offset]? = data[i * stride + offset]? := by
    intro offset inside
    rw [Array.getElem?_extract, Nat.succ_mul]
    by_cases there : i * stride + offset < data.size
    · rw [if_pos (by omega)]
    · rw [if_neg (by omega), Array.getElem?_eq_none (Nat.le_of_not_lt there)]
  unfold ofEntryBytes inBytes
  rw [byte (by omega), byte (by omega), byte (by omega), Nat.add_zero]
  by_cases more : 3 < stride
  · rw [if_pos more, if_pos more, byte more]
  · rw [if_neg more, if_neg more]

end PaletteEntry

namespace Palette

variable {palette grown : Palette} {len : Nat} {err : RasterError}

/-- Behind its colours a palette grows by black. -/
theorem get?_resize (ran : palette.resize len = .ok grown) (i : Nat) :
    grown.get? i = (palette.get? i).or (if i < len then some .black else none) := by
  have there : i < palette.count → palette.get? i ≠ none := by
    intro inside none
    exact Nat.not_le_of_lt inside (Array.getElem?_eq_none_iff.mp none)
  have beyond : palette.count ≤ i → palette.get? i = none := Array.getElem?_eq_none
  unfold resize at ran
  split at ran
  · cases ran
  · split at ran
    · next enough =>
      obtain rfl := Except.ok.inj ran
      by_cases inside : i < palette.count
      · rw [Option.or_of_isSome (Option.isSome_iff_ne_none.mpr (there inside))]
      · rw [beyond (Nat.le_of_not_lt inside), if_neg (by omega)]
        rfl
    · split at ran
      · obtain rfl := Except.ok.inj ran
        show (palette.entries ++ Array.replicate (len - palette.count) PaletteEntry.black)[i]? = _
        by_cases inside : i < palette.count
        · rw [Array.getElem?_append_left inside,
            Option.or_of_isSome (Option.isSome_iff_ne_none.mpr (there inside))]
          rfl
        · have behind : i - palette.entries.size < len - palette.count ↔ i < len := by
            unfold count at inside ⊢
            omega
          rw [Array.getElem?_append_right (Nat.le_of_not_lt inside), Array.getElem?_replicate,
            beyond (Nat.le_of_not_lt inside), Option.none_or]
          simp only [behind]
      · cases ran

/-- A palette that grew had room, and memory if it was needed. -/
theorem of_resize_ok (ran : palette.resize len = .ok grown) :
    len ≤ palette.capacity
      ∧ ¬ (palette.count < len ∧ Size.allocatable (len * entryBytes) = false) := by
  unfold resize at ran
  split at ran
  · cases ran
  · next room =>
    refine ⟨Nat.le_of_not_lt room, fun ⟨more, starved⟩ => ?_⟩
    rw [if_neg (Nat.not_le_of_lt more), starved] at ran
    cases ran

/-- One that did not lacked the one or the other. -/
theorem of_resize_error (failed : palette.resize len = .error err) :
    palette.capacity < len
      ∨ (palette.count < len ∧ Size.allocatable (len * entryBytes) = false) := by
  unfold resize at failed
  split at failed
  · next room => exact .inl room
  · split at failed
    · cases failed
    · next more =>
      split at failed
      · cases failed
      · next starved => exact .inr ⟨Nat.lt_of_not_le more, Bool.eq_false_iff.mpr starved⟩

end Palette

namespace PaletteOp

variable {palette after : Palette} {err : RasterError} {op : PaletteOp}

/-- **An operation fails only if it is refused or starved.** -/
theorem of_apply_error (bounded : palette.capacity < Size.limit)
    (failed : op.apply palette = .error err) : op.Refused palette ∨ op.Starved palette := by
  cases op with
  | clear => cases failed
  | resize len => exact Palette.of_resize_error failed
  | set index red green blue opacity =>
    change palette.set index _ = _ at failed
    unfold Palette.set at failed
    split at failed
    · next beyond => exact .inl beyond
    · next room =>
      cases grows : palette.resize (index + 1) with
      | ok grown =>
        rw [grows] at failed
        cases failed
      | error err' =>
        refine .inr ((Palette.of_resize_error grows).resolve_left ?_)
        omega
  | load start count data stride =>
    change palette.load start count data stride = _ at failed
    unfold Palette.load at failed
    dsimp only at failed
    split at failed
    · next narrow => exact .inl (.inl narrow)
    · split at failed
      · next beyond => exact .inl (.inr (.inl (by omega)))
      · split at failed
        · next few => exact .inl (.inr (.inr few))
        · next room _ =>
          cases grows : palette.resize (start + count) with
          | ok grown =>
            rw [grows] at failed
            cases failed
          | error err' =>
            refine .inr ((Palette.of_resize_error grows).resolve_left ?_)
            omega

/-- **Otherwise it shows what was asked for.** -/
theorem shows_of_apply (ran : op.apply palette = .ok after) : op.Shows palette after := by
  cases op with
  | clear =>
    cases ran
    refine ⟨id, fun starved => Nat.not_lt_zero _ starved.1, rfl, rfl, fun i => ?_⟩
    exact Array.getElem?_empty
  | resize len =>
    change palette.resize len = _ at ran
    obtain ⟨room, granted⟩ := Palette.of_resize_ok ran
    exact ⟨Nat.not_lt.mpr room, granted, Palette.capacity_resize ran, Palette.count_resize ran,
      Palette.get?_resize ran⟩
  | set index red green blue opacity =>
    change palette.set index _ = _ at ran
    unfold Palette.set at ran
    split at ran
    · cases ran
    · next room =>
      obtain ⟨grown, grows, ran⟩ := exists_of_except_bind ran
      cases ran
      have count := Palette.count_resize grows
      refine ⟨room, (Palette.of_resize_ok grows).2, ?_, ?_, fun i => ?_⟩
      · show grown.capacity = _
        exact Palette.capacity_resize grows
      · show (grown.entries.setIfInBounds index _).size = _
        rw [Array.size_setIfInBounds]
        exact count
      · show (grown.entries.setIfInBounds index _)[i]? = _
        unfold Palette.count at count
        rw [Array.getElem?_setIfInBounds]
        unfold shown? put?
        dsimp only
        by_cases here : index = i
        · rw [if_pos here, if_pos (by omega), if_pos here.symm]
          rfl
        · rw [if_neg here, if_neg (Ne.symm here)]
          exact Palette.get?_resize grows i
  | load start count data stride =>
    change palette.load start count data stride = _ at ran
    unfold Palette.load at ran
    dsimp only at ran
    split at ran
    · cases ran
    next wide =>
    split at ran
    · cases ran
    next room =>
    split at ran
    · cases ran
    next enough =>
    obtain ⟨grown, grows, ran⟩ := exists_of_except_bind ran
    cases ran
    have size := Palette.count_resize grows
    refine ⟨?_, (Palette.of_resize_ok grows).2, ?_, ?_, fun i => ?_⟩
    · show ¬ (stride < 3 ∨ palette.capacity < start + count ∨ data.size / stride < count)
      omega
    · show grown.capacity = _
      exact Palette.capacity_resize grows
    · show (Palette.write data stride start count grown.entries).size = _
      rw [Palette.size_write]
      exact size
    · show (Palette.write data stride start count grown.entries)[i]? = _
      unfold Palette.count at size
      rw [Palette.getElem?_write, PaletteEntry.ofEntryBytes_extract (Nat.le_of_not_lt wide)]
      unfold shown? put?
      dsimp only
      by_cases here : start ≤ i ∧ i < start + count
      · rw [if_pos ⟨here.1, here.2, by omega⟩, if_pos here]
        rfl
      · rw [if_neg fun inside => here ⟨inside.1, inside.2.1⟩, if_neg here]
        exact Palette.get?_resize grows i

/-- What was not refused has room. -/
theorem countBehind_le (bounded : palette.Bounded)
    (taken : ¬ op.Refused palette) : op.countBehind palette ≤ palette.capacity := by
  have count_le := bounded.count_le
  cases op with
  | clear => exact Nat.zero_le _
  | set index red green blue opacity =>
    exact Nat.max_le.mpr ⟨count_le, Nat.lt_of_not_le taken⟩
  | resize len => exact Nat.max_le.mpr ⟨count_le, Nat.le_of_not_lt taken⟩
  | load start count data stride =>
    exact Nat.max_le.mpr ⟨count_le, Nat.le_of_not_lt fun beyond => taken (.inr (.inl beyond))⟩

/-- So a palette stays bounded. -/
theorem Shows.bounded (shows : op.Shows palette after) (bounded : palette.Bounded) :
    after.Bounded := by
  refine ⟨?_, ?_⟩
  · rw [shows.count_eq, shows.capacity_eq]
    exact countBehind_le bounded shows.taken
  · rw [shows.capacity_eq]
    exact bounded.word

theorem perform_of_ok (ran : op.apply palette = .ok after) : op.perform palette = .ok () after := by
  unfold perform
  rw [ran]

theorem perform_of_error {err : RasterError} (failed : op.apply palette = .error err) :
    op.perform palette = .error err palette := by
  unfold perform
  rw [failed]

/-- To set a colour is to load one. -/
theorem perform_set (word : palette.capacity < Size.limit) (index : Nat)
    (red green blue opacity : UInt8) :
    (set index red green blue opacity).perform palette
      = (load index 1 #[red, green, blue, opacity] 4).perform palette := by
  have same : (set index red green blue opacity).apply palette
      = (load index 1 #[red, green, blue, opacity] 4).apply palette := by
    show palette.set index (.ofBytes red green blue opacity)
      = palette.load index 1 #[red, green, blue, opacity] 4
    unfold Palette.set Palette.load
    by_cases beyond : palette.capacity ≤ index
    · rw [if_pos beyond, if_neg (by decide), if_pos (.inl (Nat.lt_succ_of_le beyond))]
    · have one : ¬ #[red, green, blue, opacity].size / 4 < 1 := by
        show ¬ 4 / 4 < 1
        decide
      rw [if_neg beyond, if_neg (by decide), if_neg (by omega), if_neg one]
      rfl
  unfold perform
  rw [same]

end PaletteOp

end WpgRaster
