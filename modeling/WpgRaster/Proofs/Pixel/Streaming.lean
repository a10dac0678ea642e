import WpgRaster.Pixel.GuardedSink
import WpgRaster.Proofs.Pixel.Unpacking

/-!
# Interleaved rows as streams

The formula for a sample of an interleaved row looks the sample up by its place in the row
(`Expander.sample`). Who reads such a row from its first byte to its last finds the same samples
(`Expander.Arranged.toList_expand_interleaved`), a byte that is not there being zero.

How many samples a row needs is computed with no check. If the number fits a word, then a row is
written as a whole, or it is refused and nothing of it is written
(`Unpacker.consumeRow_interleaved`). If it does not, then the program ends, and a sink whose rows
are too short never hears of it (`Unpacker.consumeRow_interleaved_beyond`).
-/

namespace WpgRaster

/-! ## Samples one behind the other -/

namespace Component

/-- The sample at the front of some bytes. A byte that is not there is zero. -/
def front (component : Component) (bytes : List UInt8) : Nat :=
  let high := (bytes[0]?.getD 0).toNat
  if component.depth ≤ 8 then high else 256 * high + (bytes[1]?.getD 0).toNat

/-- **A pixel is read**: what its samples stand for, one behind the other. -/
def readPixel : List Component → List UInt8 → List UInt16
  | [], _ => []
  | component :: rest, bytes =>
    component.shown (component.front bytes) :: readPixel rest (bytes.drop component.storedBytes)

/-- **Pixels are read**, one behind the other. -/
def readPixels (components : List Component) : Nat → List UInt8 → List UInt16
  | 0, _ => []
  | count + 1, bytes =>
    readPixel components bytes
      ++ readPixels components count (bytes.drop (totalBytes components))

@[simp] theorem length_readPixel (components : List Component) (bytes : List UInt8) :
    (readPixel components bytes).length = components.length := by
  induction components generalizing bytes with
  | nil => rfl
  | cons component rest ih => rw [readPixel, List.length_cons, List.length_cons, ih]

@[simp] theorem length_readPixels (components : List Component) (count : Nat)
    (bytes : List UInt8) :
    (readPixels components count bytes).length = count * components.length := by
  induction count generalizing bytes with
  | zero => rw [readPixels, List.length_nil, Nat.zero_mul]
  | succ count ih =>
    rw [readPixels, List.length_append, length_readPixel, ih, Nat.succ_mul, Nat.add_comm]

/-- Every pixel is read from its own place. -/
theorem readPixels_drop (components : List Component) (count start : Nat) (bytes : List UInt8) :
    readPixels components count (bytes.drop start) = (List.range count).flatMap fun x =>
      readPixel components (bytes.drop (start + x * totalBytes components)) := by
  induction count generalizing start with
  | zero => rfl
  | succ count ih =>
    rw [readPixels, List.drop_drop, ih, List.range_succ_eq_map, List.flatMap_cons,
      List.flatMap_map, Nat.zero_mul, Nat.add_zero]
    congr 1
    refine congrArg (List.range count).flatMap (funext fun x => ?_)
    rw [Nat.succ_mul, Nat.add_assoc, Nat.add_comm (totalBytes components)]

/-- The sample at the front is the one at the place of the front. -/
theorem rawAt_of_build {component : Component} {scale : ComponentScale}
    (built : ComponentScale.build component = .ok scale) (row : Bytes) (start : Nat) :
    scale.rawAt row start = component.front (row.toList.drop start) := by
  have found : ∀ i, row[start + i]? = (row.toList.drop start)[i]? := fun i => by
    rw [List.getElem?_drop, Array.getElem?_toList]
  have first := found 0
  rw [Nat.add_zero] at first
  rw [eq_of_build built]
  unfold ComponentScale.rawAt front storedBytes
  dsimp only
  rw [first, found 1]
  by_cases narrow : component.depth ≤ 8
  · rw [if_pos narrow, if_pos narrow, if_neg (by decide)]
  · rw [if_neg narrow, if_neg narrow, if_pos (by decide)]

/-- A component takes as many bytes as its scale. -/
theorem storedBytes_of_build {component : Component} {scale : ComponentScale}
    (built : ComponentScale.build component = .ok scale) :
    scale.storedBytes = component.storedBytes :=
  ComponentScale.totalBytes_eq (.cons built .nil)

/-- **The samples of a pixel are read from the places that their scales look at.** -/
theorem readPixel_drop {components : List Component} {scales : List ComponentScale}
    (built : Scaled components scales) (row : Bytes) (start : Nat) (fallback : ComponentScale) :
    readPixel components (row.toList.drop start)
      = (List.range components.length).map fun c =>
        (scales[c]?.getD fallback).value ((scales[c]?.getD fallback).rawAt row
          (start + ComponentScale.totalBytes (scales.take c))) := by
  induction built generalizing start with
  | nil => rfl
  | @cons component scale components scales one _ ih =>
    rw [readPixel, List.drop_drop, ih, List.length_cons, List.range_succ_eq_map, List.map_cons,
      List.map_map]
    refine congrArg₂ List.cons ?_ (List.map_congr_left fun c _ => ?_)
    · show _ = scale.value (scale.rawAt row (start + 0))
      rw [value_of_build one, Nat.add_zero, rawAt_of_build one]
    · show _ = (scales[c]?.getD fallback).value ((scales[c]?.getD fallback).rawAt row
        (start + (scale.storedBytes + ComponentScale.totalBytes (scales.take c))))
      rw [← storedBytes_of_build one, Nat.add_assoc]

end Component

namespace Layout.Supports

variable {count : Nat} {components : List Component}

/-- Interleaved pixels have a sample for each component. -/
theorem components_eq (supports : (Layout.interleaved count).Supports components) :
    (Layout.interleaved count).colorSpace.components = components.length := by
  cases supports with
  | interleaved same few _ =>
    rw [same]
    simp only [List.mem_cons, List.not_mem_nil, or_false] at few
    obtain rfl | rfl | rfl | rfl := few <;> rfl

end Layout.Supports

namespace Expander.Arranged

variable {columns count : Nat} {palette : Option Palette} {components : List Component}
  {exp : Expander}

/-- **An interleaved row is expanded as if its bytes were read from the first to the last.** -/
theorem toList_expand_interleaved
    (arranged : exp.Arranged columns (.interleaved count) palette components) (row : Bytes) :
    (exp.expand row).toList = Component.readPixels components exp.columns row.toList := by
  have bytes : exp.pixelBytes = Component.totalBytes components :=
    ComponentScale.totalBytes_eq arranged.scales
  rw [exp.toList_expand, arranged.layout_eq, arranged.supports.components_eq,
    ← List.drop_zero (l := row.toList), Component.readPixels_drop]
  refine congrArg (List.range exp.columns).flatMap (funext fun x => ?_)
  rw [Component.readPixel_drop arranged.scales row _ ⟨⟨0, #[]⟩, false, 0⟩]
  unfold Expander.sample Expander.scale Expander.componentOffset
  rw [arranged.layout_eq, Nat.zero_add, bytes]

end Expander.Arranged

/-! ## Rows that are written -/

namespace Unpacker

variable {κ : Type} [RowSink κ]

/-- **A row of interleaved components is written as a whole or not at all.** Whatever is handed to
an unpacker in use, if a word counts the samples of a row, then the sink begins the row first. If it
does not, or if the row that it begins is shorter than that, then nothing is written and nothing is
committed. Otherwise all samples of the row are written, those that are read from its bytes, one
behind the other, with a zero for every byte that is missing, and the sink is asked to commit the
row. If no word counts the samples, then the program ends before the sink is asked for anything. -/
theorem consumeRow_interleaved {columns count : Nat} {palette : Option Palette}
    {components : List Component} {unpacker : Unpacker κ}
    (used : InUse columns (.interleaved count) palette components unpacker) (row : Nat)
    (bytes : Bytes) :
    let needed := columns * components.length
    let samples := Component.readPixels components columns bytes.toList
    samples.length = needed
      ∧ consumeRow row bytes unpacker =
        if Size.limit ≤ needed then .error .overflow unpacker
        else match RowSink.beginRow row unpacker.sink with
        | .error err sink => .error err { unpacker with sink }
        | .ok length sink =>
          if length < needed then
            .error (.dimensionMismatch .rowLength needed length) { unpacker with sink }
          else match RowSink.commitRow row (RowSink.writeRow row samples.toArray sink) with
            | .ok () sink => .ok () { unpacker with sink }
            | .error err sink => .error err { unpacker with sink } := by
  intro needed samples
  have arranged := used.arranged
  have counted : unpacker.expander.sampleCount = needed := by
    rw [arranged.sampleCount_eq, arranged.supports.components_eq]
  have expanded : unpacker.expander.expand bytes = samples.toArray := by
    refine Array.toList_inj.mp ?_
    rw [arranged.toList_expand_interleaved, arranged.columns_eq]
  have clamped : unpacker.expander.clampedIn bytes = 0 := by
    unfold Expander.clampedIn
    rw [arranged.layout_eq]
  refine ⟨Component.length_readPixels .., ?_⟩
  by_cases word : Size.limit ≤ needed
  · rw [if_pos word, consumeRow_of_le (counted ▸ word)]
  rw [if_neg word]
  cases began : RowSink.beginRow row unpacker.sink with
  | error err sink =>
    unfold consumeRow
    dsimp only
    rw [counted, if_neg word, began]
  | ok length sink =>
    dsimp only
    by_cases short : length < needed
    · unfold consumeRow
      dsimp only
      rw [counted, if_neg word, began]
      dsimp only
      rw [if_pos short, if_pos short]
    · rw [if_neg short, consumeRow_eq (by omega) began (by omega) expanded clamped]
      rfl

/-- Two pixels of two and of four bits, of whose four bytes the last one is missing: it is taken
for zero, and all four samples are written. -/
theorem consumeRow_interleaved_threeBytes :
    let components : List Component := [{ depth := 2 }, { depth := 4 }]
    let image : PixelBuffer := ⟨2, 1, .lumaA, #[1, 1, 1, 1], 0⟩
    let bytes : Bytes := #[0x01, 0x0F, 0x03]
    ∃ unpacker, ofComponents 2 components image = .ok unpacker
      ∧ InUse 2 (.interleaved 2) none components unpacker
      ∧ Component.readPixels components 2 bytes.toList = [0x5555, 0xFFFF, 0xFFFF, 0]
      ∧ (behind (consumeRow 0 bytes unpacker)).sink
        = ⟨2, 1, .lumaA, #[0x5555, 0xFFFF, 0xFFFF, 0], 1⟩ := by
  intro components image bytes
  obtain ⟨unpacker, made⟩ : ∃ unpacker, ofComponents 2 components image = .ok unpacker := ⟨_, rfl⟩
  have used : InUse 2 (.interleaved 2) none components unpacker := .ofComponents made
  refine ⟨unpacker, made, used, by decide +kernel, ?_⟩
  rw [(consumeRow_interleaved used 0 bytes).2]
  cases made
  decide +kernel

/-- **A row beyond a word ends the program.** With `2 ^ 63` pixels of two components a row needs
`2 ^ 64` samples. A sink whose rows take no sample at all is not told that they are too short, since
it is not asked for the row. -/
theorem consumeRow_interleaved_beyond :
    let components : List Component := [{ depth := 8 }, { depth := 8 }]
    let columns := Size.signedLimit
    let buffer : PixelBuffer := ⟨1, 1, .lumaA, #[0, 0], 0⟩
    let sink : GuardedSink :=
      { buffer, width := columns, height := 1, colorSpace := .lumaA, rowLength := some 0 }
    ∃ unpacker, ofComponents columns components sink = .ok unpacker
      ∧ RowSink.beginRow 0 sink = .ok 0 sink ∧ 0 < columns * components.length
      ∧ consumeRow 0 #[] unpacker = .error .overflow unpacker := by
  intro components columns buffer sink
  obtain ⟨scale, built⟩ : ∃ scale, ComponentScale.build { depth := 8 } = .ok scale := ⟨_, rfl⟩
  let expander : Expander := ⟨.interleaved 2, columns, [scale, scale], .withCapacity 0⟩
  let unpacker : Unpacker GuardedSink := ⟨expander, sink, 0⟩
  have made : ofComponents columns components sink = .ok unpacker := by
    show (do
      let scales ← components.mapM ComponentScale.build
      return ⟨⟨.interleaved 2, columns, scales, .withCapacity 0⟩, sink, 0⟩
      : Except RasterError (Unpacker GuardedSink)) = _
    rw [List.mapM_cons, List.mapM_cons, built]
    rfl
  have beyond : Size.limit ≤ expander.sampleCount := by
    show Size.limit ≤ Size.signedLimit * 2
    decide
  exact ⟨unpacker, made, rfl, by decide, consumeRow_of_le beyond 0 #[]⟩

end Unpacker

end WpgRaster
