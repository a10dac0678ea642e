import WpgRaster.Proofs.Color.Palettes
import WpgRaster.Proofs.Upholding
import WpgRaster.Proofs.Wary.Steps

/-!
# Palettes in place

`Palette.resize`, `Palette.set` and `Palette.load` say what a palette becomes. A program has one
palette, which it changes where it is: it puts black colours behind the others, one by one, and
replaces one colour after another by what it finds in the bytes. That way an operation that fails
might have changed something already, and it might reach for a colour or a byte that is not there
(`PaletteOp.performWarily`).

Neither happens, since every operation looks at its whole range before it changes anything. A
palette that holds no more colours than its capacity goes on doing so, and an operation either
fails and changes nothing, or shows the colours that were asked for among those that were there
before (`PaletteOp.performWarily_settles`). Where memory is missing, to tell how much was asked for
may end the program (`RasterError.starved`); the palette is then as it was, too.
-/

namespace WpgRaster

/-! ## Steps in place -/

namespace Palette

/-- Puts black colours behind the others, one by one. -/
def pushBlack : Nat → Wary RasterError Palette Unit
  | 0 => pure ()
  | count + 1 => do
    pushBlack count
    modify fun palette => { palette with entries := palette.entries.push .black }

/-- Replaces a colour, if there is one. -/
def replaceWarily (index : Nat) (entry : PaletteEntry) : Wary RasterError Palette Unit := do
  let palette ← get
  Wary.require (index < palette.count)
  modify fun palette => { palette with entries := palette.entries.setIfInBounds index entry }

/-- The colour in the bytes of an entry, if they are there. -/
def readWarily (bytes : Bytes) (stride : Nat) : Wary RasterError Palette PaletteEntry := do
  let red ← Wary.found bytes[0]?
  let green ← Wary.found bytes[1]?
  let blue ← Wary.found bytes[2]?
  let opacity ← if 3 < stride then Wary.found bytes[3]? else pure 255
  return .ofBytes red green blue opacity

/-- Replaces `count` colours by what is read from `data`, one by one. -/
def writeWarily (data : Bytes) (stride start : Nat) : Nat → Wary RasterError Palette Unit
  | 0 => pure ()
  | n + 1 => do
    writeWarily data stride start n
    let entry ← readWarily (data.extract (n * stride) ((n + 1) * stride)) stride
    replaceWarily (start + n) entry

/-- Grows to `len` colours. -/
def resizeWarily (len : Nat) : Wary RasterError Palette Unit := do
  let palette ← get
  if palette.capacity < len then throw (some (.paletteOverflow 0 len palette.capacity))
  else if len ≤ palette.count then pure ()
  else if Size.allocatable (len * entryBytes) then pushBlack (len - palette.count)
  else throw (some (.starved len entryBytes))

/-- Grows as far as an index, unless there is a colour already. -/
def reachWarily (index : Nat) : Wary RasterError Palette Unit := do
  let palette ← get
  if palette.count ≤ index then resizeWarily (← Wary.found (Size.add? index 1))
  else pure ()

/-- Sets one colour. -/
def setWarily (index : Nat) (entry : PaletteEntry) : Wary RasterError Palette Unit := do
  let palette ← get
  if palette.capacity ≤ index then throw (some (.paletteOverflow index 1 palette.capacity))
  else do
    reachWarily index
    replaceWarily index entry

/-- Loads `count` colours, once all that might be wrong was looked at. -/
def loadWarily (start count : Nat) (data : Bytes) (stride : Nat) :
    Wary RasterError Palette Unit := do
  let palette ← get
  if stride < 3 then throw (some .narrowPaletteEntry)
  else match Size.add? start count with
    | none => throw (some (.paletteOverflow start count palette.capacity))
    | some last =>
      if palette.capacity < last then
        throw (some (.paletteOverflow start count palette.capacity))
      else if data.size / stride < count then
        throw (some (.paletteOverflow start count (data.size / stride)))
      else do
        resizeWarily last
        let grown ← get
        Wary.require (last ≤ grown.count)
        writeWarily data stride start count

end Palette

/-- Carries an operation out in place. -/
def PaletteOp.performWarily : PaletteOp → Wary RasterError Palette Unit
  | clear => modify Palette.clear
  | set index red green blue opacity =>
    Palette.setWarily index (.ofBytes red green blue opacity)
  | resize len => Palette.resizeWarily len
  | load start count data stride => Palette.loadWarily start count data stride

/-! ## Steps in place do what they should -/

namespace Palette

variable {palette : Palette} {index len start count stride : Nat} {data : Bytes}

theorem pushBlack_eq (count : Nat) (palette : Palette) :
    pushBlack count palette
      = .ok () { palette with entries := palette.entries ++ Array.replicate count .black } := by
  induction count with
  | zero =>
    show EStateM.Result.ok () palette = _
    rw [Array.replicate_zero, Array.append_empty]
  | succ count ih =>
    have pushed : palette.entries ++ Array.replicate (count + 1) PaletteEntry.black
        = (palette.entries ++ Array.replicate count PaletteEntry.black).push .black := by
      rw [Array.replicate_succ, Array.append_push]
    unfold pushBlack
    rw [bind_of_ok ih, pushed]
    rfl

theorem get_bind {α : Type} (next : Palette → Wary RasterError Palette α) (palette : Palette) :
    ((get : Wary RasterError Palette Palette) >>= next) palette = next palette palette := rfl

theorem require_of {held : Prop} [Decidable held] (holds : held) :
    (Wary.require held : Wary RasterError Palette Unit) palette = .ok () palette := by
  unfold Wary.require
  rw [if_pos holds]
  rfl

theorem replaceWarily_of_lt (there : index < palette.count) (entry : PaletteEntry) :
    replaceWarily index entry palette
      = .ok () { palette with entries := palette.entries.setIfInBounds index entry } := by
  unfold replaceWarily
  rw [get_bind, bind_of_ok (require_of there)]
  rfl

/-- An entry that has all its bytes is read. -/
theorem readWarily_of_le {bytes : Bytes} (wide : 3 ≤ stride) (size : bytes.size = stride)
    (palette : Palette) :
    readWarily bytes stride palette = .ok (.ofEntryBytes bytes stride) palette := by
  have found : ∀ {i : Nat}, i < stride →
      (Wary.found bytes[i]? : Wary RasterError Palette UInt8) palette
        = .ok (bytes[i]?.getD 0) palette := by
    intro i inside
    rw [Array.getElem?_eq_getElem (size.symm ▸ inside)]
    rfl
  unfold readWarily PaletteEntry.ofEntryBytes
  rw [bind_of_ok (found (by omega)), bind_of_ok (found (by omega)), bind_of_ok (found (by omega))]
  by_cases more : 3 < stride
  · rw [if_pos more, if_pos more, bind_of_ok (found more)]
    rfl
  · rw [if_neg more, if_neg more]
    rfl

/-- Colours that are there are replaced, if there are as many entries. -/
theorem writeWarily_of_le (wide : 3 ≤ stride) (there : start + count ≤ palette.count)
    (enough : count ≤ data.size / stride) :
    writeWarily data stride start count palette
      = .ok () { palette with entries := write data stride start count palette.entries } := by
  induction count with
  | zero => rfl
  | succ count ih =>
    have last : (count + 1) * stride ≤ data.size :=
      Nat.le_trans (Nat.mul_le_mul_right stride enough) (Nat.div_mul_le_self _ _)
    have size : (data.extract (count * stride) ((count + 1) * stride)).size = stride := by
      rw [Array.size_extract, Nat.min_eq_left last, Nat.succ_mul, Nat.add_sub_cancel_left]
    unfold writeWarily
    rw [bind_of_ok (ih (by omega) (by omega)), bind_of_ok (readWarily_of_le wide size _)]
    refine replaceWarily_of_lt ?_ _
    show start + count < (write data stride start count palette.entries).size
    rw [size_write]
    exact there

end Palette

/-! ## Operations in place -/

namespace Palette

open Wary

variable {palette : Palette}

/-- A palette grows in place as it should. -/
theorem resizeWarily_agrees (len : Nat) (palette : Palette) :
    Agrees (resizeWarily len) (PaletteOp.perform (.resize len)) palette := by
  have apply_eq : PaletteOp.apply palette (.resize len) = palette.resize len := rfl
  unfold resize at apply_eq
  unfold resizeWarily
  by_cases beyond : palette.capacity < len
  · rw [if_pos beyond] at apply_eq
    refine .of_eq_error (PaletteOp.perform_of_error apply_eq) ?_
    rw [get_bind, if_pos beyond]
    rfl
  by_cases enough : len ≤ palette.count
  · rw [if_neg beyond, if_pos enough] at apply_eq
    refine .of_eq_ok (PaletteOp.perform_of_ok apply_eq) ?_
    rw [get_bind, if_neg beyond, if_pos enough]
    rfl
  by_cases room : Size.allocatable (len * entryBytes)
  · rw [if_neg beyond, if_neg enough, if_pos room] at apply_eq
    refine .of_eq_ok (PaletteOp.perform_of_ok apply_eq) ?_
    rw [get_bind, if_neg beyond, if_neg enough, if_pos room]
    exact pushBlack_eq _ palette
  · rw [if_neg beyond, if_neg enough, if_neg room] at apply_eq
    refine .of_eq_error (PaletteOp.perform_of_error apply_eq) ?_
    rw [get_bind, if_neg beyond, if_neg enough, if_neg room]
    rfl

/-- There are as many colours already. -/
theorem resize_of_le {len : Nat} (room : len ≤ palette.capacity) (enough : len ≤ palette.count) :
    palette.resize len = .ok palette := by
  unfold resize
  rw [if_neg (Nat.not_lt.mpr room), if_pos enough]

/-- A palette that reaches an index already grows no further. -/
theorem reachWarily_eq (word : palette.capacity < Size.limit) {index : Nat}
    (room : index < palette.capacity) :
    reachWarily index palette = resizeWarily (index + 1) palette := by
  have next : Size.add? index 1 = some (index + 1) := Size.add?_eq_some.mpr ⟨rfl, by omega⟩
  unfold reachWarily
  rw [get_bind]
  by_cases short : palette.count ≤ index
  · rw [if_pos short, next]
    rfl
  · have enough := palette.resize_of_le room (Nat.lt_of_not_le short)
    rw [if_neg short,
      (palette.resizeWarily_agrees (index + 1)).of_ok (PaletteOp.perform_of_ok enough)]
    rfl

/-- A colour is set in place as it should be. -/
theorem setWarily_agrees (word : palette.capacity < Size.limit) (index : Nat)
    (red green blue opacity : UInt8) :
    Agrees (setWarily index (.ofBytes red green blue opacity))
      (PaletteOp.perform (.set index red green blue opacity)) palette := by
  have apply_eq : PaletteOp.apply palette (.set index red green blue opacity)
      = palette.set index (.ofBytes red green blue opacity) := rfl
  unfold Palette.set at apply_eq
  unfold setWarily
  by_cases beyond : palette.capacity ≤ index
  · rw [if_pos beyond] at apply_eq
    refine .of_eq_error (PaletteOp.perform_of_error apply_eq) ?_
    rw [get_bind, if_pos beyond]
    rfl
  have reached := reachWarily_eq word (Nat.lt_of_not_le beyond)
  have resized := palette.resizeWarily_agrees (index + 1)
  rw [if_neg beyond] at apply_eq
  cases grows : palette.resize (index + 1) with
  | ok grown =>
    rw [grows] at apply_eq
    refine .of_eq_ok (PaletteOp.perform_of_ok apply_eq) ?_
    have there : index < grown.count := by
      rw [count_resize grows]
      omega
    rw [resized.of_ok (PaletteOp.perform_of_ok grows)] at reached
    rw [get_bind, if_neg beyond, bind_of_ok reached, replaceWarily_of_lt there]
  | error err =>
    rw [grows] at apply_eq
    refine .of_eq_error (PaletteOp.perform_of_error apply_eq) ?_
    rw [resized.of_error (PaletteOp.perform_of_error grows)] at reached
    rw [get_bind, if_neg beyond, bind_of_error reached]

/-- Colours are loaded in place as they should be. -/
theorem loadWarily_agrees (word : palette.capacity < Size.limit) (start count : Nat)
    (data : Bytes) (stride : Nat) :
    Agrees (loadWarily start count data stride)
      (PaletteOp.perform (.load start count data stride)) palette := by
  have apply_eq : PaletteOp.apply palette (.load start count data stride)
      = palette.load start count data stride := rfl
  unfold load at apply_eq
  dsimp only at apply_eq
  unfold loadWarily
  by_cases narrow : stride < 3
  · rw [if_pos narrow] at apply_eq
    refine .of_eq_error (PaletteOp.perform_of_error apply_eq) ?_
    rw [get_bind, if_pos narrow]
    rfl
  rw [if_neg narrow] at apply_eq
  by_cases beyond : palette.capacity < start + count
  · rw [if_pos (.inl beyond)] at apply_eq
    refine .of_eq_error (PaletteOp.perform_of_error apply_eq) ?_
    rw [get_bind, if_neg narrow]
    -- the sum is too large for the palette, and perhaps for a word
    cases last : Size.add? start count with
    | none => rfl
    | some sum =>
      obtain ⟨rfl, -⟩ := Size.add?_eq_some.mp last
      dsimp only
      rw [if_pos beyond]
      rfl
  have last : Size.add? start count = some (start + count) :=
    Size.add?_eq_some.mpr ⟨rfl, by omega⟩
  rw [if_neg (by omega)] at apply_eq
  by_cases few : data.size / stride < count
  · rw [if_pos few] at apply_eq
    refine .of_eq_error (PaletteOp.perform_of_error apply_eq) ?_
    rw [get_bind, if_neg narrow, last]
    dsimp only
    rw [if_neg beyond, if_pos few]
    rfl
  have resized := palette.resizeWarily_agrees (start + count)
  rw [if_neg few] at apply_eq
  cases grows : palette.resize (start + count) with
  | ok grown =>
    rw [grows] at apply_eq
    refine .of_eq_ok (PaletteOp.perform_of_ok apply_eq) ?_
    have there : start + count ≤ grown.count := by
      rw [count_resize grows]
      exact Nat.le_max_right _ _
    rw [get_bind, if_neg narrow, last]
    dsimp only
    rw [if_neg beyond, if_neg few, bind_of_ok (resized.of_ok (PaletteOp.perform_of_ok grows)),
      get_bind, bind_of_ok (require_of there),
      writeWarily_of_le (Nat.le_of_not_lt narrow) there (Nat.le_of_not_lt few)]
  | error err =>
    rw [grows] at apply_eq
    refine .of_eq_error (PaletteOp.perform_of_error apply_eq) ?_
    rw [get_bind, if_neg narrow, last]
    dsimp only
    rw [if_neg beyond, if_neg few,
      bind_of_error (resized.of_error (PaletteOp.perform_of_error grows))]

end Palette

/-! ## Runs in place -/

namespace PaletteOp

variable {palette : Palette}

/-- **How an operation in place ends**: with an error, where it changed nothing, or with the
colours that were asked for. -/
def Settles (palette : Palette) (op : PaletteOp) :
    EStateM.Result (Option RasterError) Palette Unit → Prop
  | .error cause after =>
    after = palette ∧ cause ≠ none ∧ (op.Refused palette ∨ op.Starved palette)
  | .ok _ after => op.Shows palette after

/-- Carries operations out in place, one after another, also behind one that failed. -/
def performAllWarily : List PaletteOp → Palette → Palette
  | [], palette => palette
  | op :: ops, palette => performAllWarily ops (behind (op.performWarily palette))

/-- **In place, operations do what they should**, and nothing is out of their reach. -/
theorem performWarily_agrees (word : palette.capacity < Size.limit) (op : PaletteOp) :
    Wary.Agrees op.performWarily op.perform palette := by
  cases op with
  | clear => rfl
  | set index red green blue opacity =>
    exact Palette.setWarily_agrees word index red green blue opacity
  | resize len => exact Palette.resizeWarily_agrees len palette
  | load start count data stride => exact Palette.loadWarily_agrees word start count data stride

/-- **An operation in place changes nothing or shows the colours that were asked for.** -/
theorem performWarily_settles (word : palette.capacity < Size.limit) (op : PaletteOp) :
    op.Settles palette (op.performWarily palette) := by
  have agrees := performWarily_agrees word op
  cases result : op.apply palette with
  | ok after =>
    rw [agrees.of_ok (perform_of_ok result)]
    exact shows_of_apply result
  | error err =>
    rw [agrees.of_error (perform_of_error result)]
    exact ⟨rfl, nofun, of_apply_error word result⟩

/-- An operation in place keeps a palette bounded, and never changes its capacity. -/
theorem bounded_performWarily (bounded : palette.Bounded) (op : PaletteOp) :
    (behind (op.performWarily palette)).Bounded
      ∧ (behind (op.performWarily palette)).capacity = palette.capacity := by
  have settles := performWarily_settles bounded.word op
  generalize op.performWarily palette = result at settles
  cases result with
  | ok _ after =>
    have shows : op.Shows palette after := settles
    exact ⟨shows.bounded bounded, shows.capacity_eq⟩
  | error cause after =>
    obtain rfl := settles.1
    exact ⟨bounded, rfl⟩

theorem bounded_performAllWarily (bounded : palette.Bounded) (ops : List PaletteOp) :
    (performAllWarily ops palette).Bounded
      ∧ (performAllWarily ops palette).capacity = palette.capacity := by
  induction ops generalizing palette with
  | nil => exact ⟨bounded, rfl⟩
  | cons op ops ih =>
    obtain ⟨bounded', capacity⟩ := bounded_performWarily bounded op
    obtain ⟨bounded'', capacity'⟩ := ih bounded'
    exact ⟨bounded'', capacity'.trans capacity⟩

/-- **Palettes in place stay bounded, and their operations are atomic.** Behind any operations,
also such as failed, there are no more colours than there is room for. The next operation finds
all that it reaches for. It fails if it is refused or memory is missing, and then the palette is
what it was. Otherwise it shows the colours that it puts there, black in a gap, and the other
colours as they were. To set a colour is to load a single one. -/
theorem performWarily_atomic (bounded : palette.Bounded) (ops : List PaletteOp)
    (op : PaletteOp) :
    let reached := performAllWarily ops palette
    (reached.Bounded ∧ reached.capacity = palette.capacity)
      ∧ Wary.Agrees op.performWarily op.perform reached
      ∧ op.Settles reached (op.performWarily reached)
      ∧ ∀ index red green blue opacity,
        (set index red green blue opacity).performWarily reached
          = (load index 1 #[red, green, blue, opacity] 4).performWarily reached := by
  intro reached
  have kept := bounded_performAllWarily bounded ops
  have word := kept.1.word
  refine ⟨kept, performWarily_agrees word op, performWarily_settles word op, ?_⟩
  intro index red green blue opacity
  rw [performWarily_agrees word (set ..), performWarily_agrees word (load ..)]
  unfold Wary.lift EStateM.adaptExcept
  rw [perform_set word]

/-- Loads that overflow or have too few bytes, between others that leave a gap and go over
colours that were there. -/
theorem performWarily_atomic_gap :
    let palette := Palette.withCapacity 4
    let ops := [load 2 1 #[255, 0, 128, 7] 4, load 3 2 #[1, 2, 3, 4, 5, 6] 3,
      load 0 3 #[1, 2, 3, 4, 5, 6, 7, 8] 3, resize 5]
    let op := load 1 2 #[9, 9, 9, 0, 0, 0] 3
    palette.Bounded
      ∧ (performAllWarily ops palette).entries
        = #[.black, .black, .ofBytes 255 0 128 7]
      ∧ op.Settles (performAllWarily ops palette) (op.performWarily (performAllWarily ops palette))
      ∧ (behind (op.performWarily (performAllWarily ops palette))).entries
        = #[.black, .ofBytes 9 9 9 255, .black] := by
  intro palette ops op
  have bounded : palette.Bounded := Palette.bounded_withCapacity (by decide)
  obtain ⟨-, -, settles, -⟩ := performWarily_atomic bounded ops op
  refine ⟨bounded, ?_, ?_, ?_⟩
  · decide +kernel
  · -- named as a term, it would be evaluated to see whether it is a function
    assumption
  · decide +kernel

end PaletteOp

end WpgRaster
