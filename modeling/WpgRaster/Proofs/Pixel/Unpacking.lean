import Mathlib.Data.List.OfFn
import WpgRaster.Proofs.Frame.Advance
import WpgRaster.Proofs.Pixel.Packing

/-!
# Unpacking inverts packing

An unpacker finds the samples of a packed row again, and writes what they stand for
(`Unpacker.consumeRow_pack`): the value that the table of their depth has for them, or the colour
that the palette has for them (`Layout.shown`). The bits behind the samples are nowhere to be
found in what is written.

What a sample stands for depends on whether it has a sign, and an unpacker may be told at any time
that all components are signed, or that they are not (`Unpacker.InUse`). Palette indices have no
sign.
-/

namespace WpgRaster

/-! ## What samples stand for -/

namespace Component

/-- The table of the depth of a component. -/
def table (component : Component) : QuantumTable :=
  match QuantumTable.build component.depth with
  | .ok table => table
  | .error _ => ⟨component.depth, #[]⟩

/-- What samples are combined with: the top bit is flipped if they have a sign. -/
def flip (component : Component) : Nat :=
  if component.signed then Size.values (component.depth - 1) else 0

/-- **What a sample stands for.** -/
def shown (component : Component) (sample : Nat) : UInt16 :=
  component.table.get (sample ^^^ component.flip)

/-- The sample that a number with a sign is stored as. -/
def twosComplement (component : Component) (value : Int) : Nat :=
  (value % Size.values component.depth).toNat

/-- How a component is scaled. -/
theorem eq_of_build {component : Component} {scale : ComponentScale}
    (built : ComponentScale.build component = .ok scale) :
    scale = ⟨component.table, component.storedBytes == 2, component.flip⟩ := by
  obtain ⟨table, found, made⟩ := exists_of_except_bind built
  have known : component.table = table := by
    unfold Component.table
    rw [found]
  unfold QuantumTable.build at found
  split at found
  · cases found
  · cases found
    cases made
    rw [known]
    rfl

/-- **Components and their scales**, one by one. -/
abbrev Scaled (components : List Component) (scales : List ComponentScale) : Prop :=
  List.Forall₂ (fun component scale => ComponentScale.build component = .ok scale) components scales

/-- **A scale shows what the samples of its component stand for.** -/
theorem value_of_build {component : Component} {scale : ComponentScale}
    (built : ComponentScale.build component = .ok scale) (sample : Nat) :
    scale.value sample = component.shown sample := by
  rw [eq_of_build built]
  rfl

/-- The sign of a component changes its scale only. -/
theorem build_signed {component : Component} {scale : ComponentScale}
    (built : ComponentScale.build component = .ok scale) (signed : Bool) :
    ComponentScale.build { component with signed } = .ok (scale.setSigned signed) := by
  obtain ⟨table, found, made⟩ := exists_of_except_bind built
  cases made
  unfold ComponentScale.build
  rw [found]
  rfl

/-- Flipping the top bit of a number without it adds it. -/
theorem xor_values {bits value : Nat} (small : value < Size.values bits) :
    value ^^^ Size.values bits = value + Size.values bits := by
  have power : Size.values bits = 2 ^ bits := Nat.one_shiftLeft bits
  rw [power] at small ⊢
  have whole := Nat.two_pow_add_eq_or_of_lt small 1
  rw [Nat.mul_one] at whole
  rw [Nat.add_comm, whole]
  refine Nat.eq_of_testBit_eq fun i => ?_
  rw [Nat.testBit_xor, Nat.testBit_or, Nat.testBit_two_pow]
  by_cases top : bits = i
  · subst top
    rw [Nat.testBit_lt_two_pow small, Bool.false_xor, Bool.or_false]
  · rw [decide_eq_false top, Bool.xor_false, Bool.false_or]

/-- **Numbers with a sign keep their order**: the smallest one becomes zero. -/
theorem shown_twosComplement {component : Component} (signed : component.signed = true)
    (some : 0 < component.depth) {value : Int} (least : -Size.values (component.depth - 1) ≤ value)
    (greatest : value < Size.values (component.depth - 1)) :
    component.shown (component.twosComplement value)
      = component.table.get (value + Size.values (component.depth - 1)).toNat := by
  have twice : Size.values component.depth = 2 * Size.values (component.depth - 1) := by
    rw [← Size.values_succ, Nat.sub_add_cancel some]
  have flipped : ∀ low, low < Size.values (component.depth - 1) →
      low ^^^ Size.values (component.depth - 1) = low + Size.values (component.depth - 1) :=
    fun low small => xor_values small
  unfold shown twosComplement flip
  rw [signed, if_pos rfl, twice]
  generalize Size.values (component.depth - 1) = half at least greatest flipped
  refine congrArg component.table.get ?_
  obtain negative | positive := Int.lt_or_le value 0
  · -- the top bit is set, and is taken away again
    have stored : (value % (2 * half : Nat)).toNat = (value + half).toNat + half := by
      have wrapped : value % (2 * half : Nat) = value + (2 * half : Nat) := by
        rw [← Int.add_emod_right, Int.emod_eq_of_lt (by omega) (by omega)]
      rw [wrapped]
      omega
    rw [stored, ← flipped _ (by omega), Nat.xor_assoc, Nat.xor_self, Nat.xor_zero]
  · have stored : (value % (2 * half : Nat)).toNat = value.toNat := by
      rw [Int.emod_eq_of_lt positive (by omega)]
    rw [stored, flipped _ (by omega)]
    omega

end Component

/-- The colour of an index: an index beyond the palette is taken for the last one. -/
def Palette.colorOf (palette : Palette) (index : Nat) : PaletteEntry :=
  palette.entries[min index (palette.count - 1)]?.getD .black

theorem Palette.lookup_eq (palette : Palette) (index : Nat) :
    palette.lookup index = (palette.colorOf index, decide (palette.count ≤ index)) := by
  unfold lookup colorOf
  obtain inside | beyond := Nat.lt_or_ge index palette.count
  · have there : palette.entries[index]? = some palette.entries[index] :=
      Array.getElem?_eq_getElem inside
    rw [Nat.min_eq_left (by omega), there, decide_eq_false (Nat.not_le.mpr inside)]
    rfl
  · have missing : palette.entries[index]? = none := Array.getElem?_eq_none beyond
    rw [Nat.min_eq_right (by omega), missing, decide_eq_true beyond, Array.back?_eq_getElem?]
    rfl

/-- **What a pixel stands for**: its samples one by one, or the colour of its index. -/
def Layout.shown (layout : Layout) (components : List Component) (palette : Option Palette)
    (pixel : List Nat) : List UInt16 :=
  match layout with
  | gray _ | interleaved _ => List.zipWith Component.shown components pixel
  | indexed _ => pixel.flatMap fun index =>
    ((palette.getD (.withCapacity 0)).colorOf index).samples

/-- How many indices of some pixels are beyond the palette. -/
def Layout.beyond (layout : Layout) (palette : Option Palette) (pixels : List (List Nat)) : Nat :=
  match layout with
  | indexed _ => pixels.flatten.countP fun index => (palette.getD (.withCapacity 0)).count ≤ index
  | gray _ | interleaved _ => 0

/-! ## Unpackers in use -/

/-- **A layout and the components that it may have.** -/
inductive Layout.Supports : Layout → List Component → Prop
  /-- Gray levels. -/
  | gray {bits : Nat} {signed : Bool} : bits ∈ [1, 2, 4, 8] →
    Supports (.gray bits) [{ depth := bits, signed }]
  /-- Palette indices. -/
  | indexed {bits : Nat} {signed : Bool} : bits ∈ [1, 2, 4, 8] →
    Supports (.indexed bits) [{ depth := bits, signed }]
  /-- Whole bytes. -/
  | interleaved {components : List Component} {count : Nat} : components.length = count →
    count ∈ [1, 2, 3, 4] →
    (∀ component ∈ components, 0 < component.depth ∧ component.depth ≤ 16) →
    Supports (.interleaved count) components

section

variable {κ : Type} [RowSink κ]

/-- **An unpacker in use**: it was made for rows of some layout, it may have been told that
components are signed or that they are not, and it may have been handed rows. The components are
those that it goes by. -/
inductive Unpacker.InUse (columns : Nat) :
    Layout → Option Palette → List Component → Unpacker κ → Prop
  /-- It was made for pixels of a depth. -/
  | ofDepth {depth : Nat} {model : ColorModel} {palette : Option Palette} {layout : Layout}
    {sink : κ} {unpacker : Unpacker κ} : Layout.resolve depth model = .ok layout →
    ofDepth columns depth model palette sink = .ok unpacker →
    InUse columns layout palette (layout.components depth) unpacker
  /-- It was made for components. -/
  | ofComponents {components : List Component} {sink : κ} {unpacker : Unpacker κ} :
    ofComponents columns components sink = .ok unpacker →
    InUse columns (.interleaved components.length) none components unpacker
  /-- It was told that components are signed, or that they are not. -/
  | setSigned {layout : Layout} {palette : Option Palette} {components : List Component}
    {unpacker : Unpacker κ} (signed : Bool) : InUse columns layout palette components unpacker →
    InUse columns layout palette (components.map ({ · with signed })) (unpacker.setSigned signed)
  /-- It was handed a row. -/
  | handed {layout : Layout} {palette : Option Palette} {components : List Component}
    {unpacker : Unpacker κ} (row : Nat) (bytes : Bytes) :
    InUse columns layout palette components unpacker →
    InUse columns layout palette components (behind (consumeRow row bytes unpacker))

/-- **An expander that was arranged for rows**: it has a scale for each component. -/
structure Expander.Arranged (columns : Nat) (layout : Layout) (palette : Option Palette)
    (components : List Component) (exp : Expander) : Prop where
  /-- Rows have so many pixels. -/
  columns_eq : exp.columns = columns
  /-- They have the layout. -/
  layout_eq : exp.layout = layout
  /-- Components are scaled. -/
  scales : Component.Scaled components exp.scales
  /-- Indices have a palette. -/
  palette_eq : ∀ bits, layout = .indexed bits → palette = some exp.palette
  /-- The layout has the components. -/
  supports : layout.Supports components

/-- Components are scaled one by one. -/
theorem scales_of_mapM {components : List Component} {scales : List ComponentScale}
    (built : components.mapM ComponentScale.build = .ok scales) :
    Component.Scaled components scales := by
  induction components generalizing scales with
  | nil =>
    cases built
    exact .nil
  | cons component rest ih =>
    rw [List.mapM_cons] at built
    obtain ⟨scale, one, built⟩ := exists_of_except_bind built
    obtain ⟨others, more, built⟩ := exists_of_except_bind built
    cases built
    exact .cons one (ih more)

theorem Layout.supports_of_resolve {depth : Nat} {model : ColorModel} {layout : Layout}
    (resolved : resolve depth model = .ok layout) : layout.Supports (layout.components depth) := by
  unfold resolve at resolved
  split at resolved
  all_goals cases resolved
  all_goals first
    | exact .gray (by decide)
    | exact .indexed (by decide)
    | exact .interleaved rfl (by decide) (by decide)

theorem Layout.supports_of_components {components : List Component} {space : ColorSpace}
    (counted : colorSpaceOfComponents components = .ok space) :
    (Layout.interleaved components.length).Supports components := by
  unfold colorSpaceOfComponents at counted
  split at counted
  · cases counted
  · next few =>
    split at counted
    · cases counted
    · next sound =>
      refine .interleaved rfl (by simp; omega) fun component among => ?_
      have within := List.find?_eq_none.mp sound component among
      simp only [Bool.or_eq_true, decide_eq_true_eq] at within
      omega

namespace Layout.Supports

variable {layout : Layout} {components : List Component}

/-- Samples have bits. -/
theorem depth_pos (supports : layout.Supports components) {component : Component}
    (among : component ∈ components) : 0 < component.depth := by
  have some : ∀ bits ∈ [1, 2, 4, 8], 0 < bits := by decide
  cases supports with
  | gray whole =>
    obtain rfl := List.mem_singleton.mp among
    exact some _ whole
  | indexed whole =>
    obtain rfl := List.mem_singleton.mp among
    exact some _ whole
  | interleaved _ _ deep => exact (deep component among).1

/-- Pixels have samples. -/
theorem components_pos (supports : layout.Supports components) :
    0 < layout.colorSpace.components := by
  cases supports with
  | gray _ => exact Nat.one_pos
  | indexed _ => exact Nat.succ_pos 2
  | interleaved _ few _ =>
    simp only [List.mem_cons, List.not_mem_nil, or_false] at few
    obtain rfl | rfl | rfl | rfl := few <;> decide

/-- A sign makes no difference to what is supported. -/
theorem signed (supports : layout.Supports components) (signed : Bool) :
    layout.Supports (components.map ({ · with signed })) := by
  cases supports with
  | gray whole => exact .gray whole
  | indexed whole => exact .indexed whole
  | interleaved same few deep =>
    refine .interleaved ((List.length_map _).trans same) few fun component among => ?_
    obtain ⟨other, there, rfl⟩ := List.mem_map.mp among
    exact deep other there

end Layout.Supports

namespace Unpacker

/-- A row changes the sink only, and the number of indices that were clamped. -/
theorem expander_consumeRow (row : Nat) (bytes : Bytes) (unpacker : Unpacker κ) :
    (behind (consumeRow row bytes unpacker)).expander = unpacker.expander := by
  unfold consumeRow
  dsimp only
  repeat' split
  all_goals rfl

variable {columns : Nat} {layout : Layout} {palette : Option Palette}
  {components : List Component} {unpacker : Unpacker κ}

theorem arranged_of_build {colors : Palette} {sink : κ}
    (built : build columns layout components colors sink = .ok unpacker)
    (given : ∀ bits, layout = .indexed bits → palette = some colors)
    (supports : layout.Supports components) :
    unpacker.expander.Arranged columns layout palette components := by
  unfold build at built
  obtain ⟨-, built⟩ := of_except_guard built
  obtain ⟨-, built⟩ := of_except_guard built
  obtain ⟨scales, scaled, built⟩ := exists_of_except_bind built
  cases built
  exact ⟨rfl, rfl, scales_of_mapM scaled, given, supports⟩

/-- **An unpacker in use is arranged for its rows.** -/
theorem InUse.arranged (used : InUse columns layout palette components unpacker) :
    unpacker.expander.Arranged columns layout palette components := by
  induction used with
  | @ofDepth depth model palette layout sink unpacker resolved made =>
    obtain ⟨other, resolved', made⟩ := exists_of_except_bind made
    rw [resolved] at resolved'
    cases resolved'
    obtain ⟨colors, found, built⟩ := exists_of_except_bind made
    refine arranged_of_build built (fun bits indexed => ?_) (Layout.supports_of_resolve resolved)
    subst indexed
    exact (paletteFor_indexed found).1
  | @ofComponents components sink unpacker made =>
    obtain ⟨space, counted, built⟩ := exists_of_except_bind made
    exact arranged_of_build built nofun (Layout.supports_of_components counted)
  | @setSigned layout palette components unpacker signed _ ih =>
    refine ⟨ih.columns_eq, ih.layout_eq, ?_, ih.palette_eq, ih.supports.signed signed⟩
    show List.Forall₂ _ (components.map _) (unpacker.expander.scales.map _)
    rw [List.forall₂_map_left_iff, List.forall₂_map_right_iff]
    exact ih.scales.imp fun component scale built => Component.build_signed built signed
  | handed row bytes _ ih =>
    rw [expander_consumeRow]
    exact ih

end Unpacker

/-! ## Samples found again -/

/-- Fewer bits have fewer values. -/
theorem Size.values_le {bits more : Nat} (few : bits ≤ more) : values bits ≤ values more := by
  unfold values
  rw [Nat.one_shiftLeft, Nat.one_shiftLeft]
  exact Nat.pow_le_pow_right Nat.two_pos few

/-- **A sample that was written in whole bytes is found again.** -/
theorem Component.rawAt_pack {component : Component} {scale : ComponentScale}
    (built : ComponentScale.build component = .ok scale) (deep : component.depth ≤ 16)
    {sample : Nat} (fits : sample < Size.values component.depth) {row : Bytes}
    {front rest : List UInt8} (split : row.toList = front ++ component.pack sample ++ rest) :
    scale.rawAt row front.length = sample := by
  have found : ∀ i, row[front.length + i]? = (component.pack sample ++ rest)[i]? := by
    intro i
    rw [← Array.getElem?_toList, split, List.append_assoc,
      List.getElem?_append_right (Nat.le_add_right _ _), Nat.add_sub_cancel_left]
  have first := found 0
  have second := found 1
  rw [eq_of_build built]
  unfold ComponentScale.rawAt
  dsimp only
  by_cases narrow : component.depth ≤ 8
  · have stored : component.storedBytes = 1 := if_pos narrow
    have small : sample < 256 := Nat.lt_of_lt_of_le fits (Size.values_le narrow)
    have written : component.pack sample = [sample.toUInt8] := if_pos narrow
    rw [written] at first
    rw [stored, if_neg (by decide)]
    rw [Nat.add_zero] at first
    rw [first]
    exact UInt8.toNat_ofNat_of_lt' small
  · have stored : component.storedBytes = 2 := if_neg narrow
    have small : sample < 65536 := Nat.lt_of_lt_of_le fits (Size.values_le deep)
    have written : component.pack sample = [(sample / 256).toUInt8, sample.toUInt8] :=
      if_neg narrow
    rw [written] at first second
    rw [stored, if_pos (by decide)]
    rw [Nat.add_zero] at first
    rw [first, second]
    show 256 * (sample / 256).toUInt8.toNat + sample.toUInt8.toNat = sample
    rw [UInt8.toNat_ofNat_of_lt' (by show sample / 256 < 256; omega)]
    show 256 * (sample / 256) + sample % 256 = sample
    omega

/-- Bytes of samples are counted alike by components and by their scales. -/
theorem ComponentScale.totalBytes_eq {components : List Component} {scales : List ComponentScale}
    (built : Component.Scaled components scales) :
    totalBytes scales = Component.totalBytes components := by
  induction built with
  | nil => rfl
  | @cons component scale components scales one _ ih =>
    have stored : scale.storedBytes = component.storedBytes := by
      rw [Component.eq_of_build one]
      unfold storedBytes Component.storedBytes
      dsimp only
      split <;> rfl
    unfold totalBytes Component.totalBytes
    rw [stored, ih]

/-- **The samples of a pixel are found one behind the other**, and shown. -/
theorem Component.shown_packAll {components : List Component} {scales : List ComponentScale}
    (built : Scaled components scales)
    (deep : ∀ component ∈ components, component.depth ≤ 16)
    {pixel : List Nat} (holds : Holds components pixel) {row : Bytes} {front rest : List UInt8}
    (split : row.toList = front ++ packAll components pixel ++ rest) (fallback : ComponentScale) :
    ((List.range components.length).map fun c =>
        (scales[c]?.getD fallback).value ((scales[c]?.getD fallback).rawAt row
          (front.length + ComponentScale.totalBytes (scales.take c))))
      = List.zipWith shown components pixel := by
  induction built generalizing pixel front with
  | nil =>
    cases holds
    rfl
  | @cons component scale components scales one others ih =>
    cases holds with
    | @cons _ sample _ pixel fits holds =>
      have here : row.toList
          = front ++ component.pack sample ++ (packAll components pixel ++ rest) := by
        rw [split, ← List.append_assoc]
        show front ++ (component.pack sample ++ packAll components pixel) ++ rest = _
        rw [← List.append_assoc]
      have behind : row.toList
          = front ++ component.pack sample ++ packAll components pixel ++ rest := by
        rw [here, List.append_assoc _ _ rest]
      have first := rawAt_pack one (deep component List.mem_cons_self) fits here
      have more := ih (fun other among => deep other (List.mem_cons_of_mem component among)) holds
        behind
      have stored : (component.pack sample).length = scale.storedBytes := by
        rw [length_pack]
        have total := ComponentScale.totalBytes_eq (.cons one .nil)
        exact total.symm
      rw [List.length_append, stored] at more
      rw [List.length_cons, List.range_succ_eq_map, List.map_cons, List.map_map,
        List.zipWith_cons_cons, ← more]
      refine congrArg₂ List.cons ?_ (List.map_congr_left fun c _ => ?_)
      · show scale.value (scale.rawAt row (front.length + 0)) = _
        rw [Nat.add_zero, first, value_of_build one]
      · show (scales[c]?.getD fallback).value ((scales[c]?.getD fallback).rawAt row
          (front.length + (scale.storedBytes + ComponentScale.totalBytes (scales.take c)))) = _
        rw [Nat.add_assoc]

namespace Expander

/-- An expanded row, pixel by pixel. -/
theorem toList_expand (exp : Expander) (row : Bytes) :
    (exp.expand row).toList = (List.range exp.columns).flatMap fun x =>
      (List.range exp.layout.colorSpace.components).map (exp.sample row x) := by
  unfold expand
  dsimp only
  generalize exp.layout.colorSpace.components = components
  rw [Array.toList_ofFn, List.ofFn_mul, List.flatMap_def]
  refine congrArg List.flatten (List.ext_getElem (by simp) fun x _ inside => ?_)
  rw [List.getElem_ofFn, List.getElem_map, List.getElem_range]
  refine List.ext_getElem (by simp) fun c _ among => ?_
  rw [List.length_map, List.length_range] at among
  rw [List.getElem_ofFn, List.getElem_map, List.getElem_range]
  show exp.sample row ((x * components + c) / components) ((x * components + c) % components) = _
  rw [Nat.mul_comm, Nat.mul_add_div (by omega), Nat.div_eq_of_lt among, Nat.add_zero,
    Nat.mul_add_mod, Nat.mod_eq_of_lt among]

end Expander

/-- Pixels of one component are samples. -/
theorem Component.exists_samples {component : Component} {pixels : List (List Nat)}
    (holds : ∀ pixel ∈ pixels, Holds [component] pixel) :
    ∃ samples : List Nat, pixels = samples.map ([·])
      ∧ ∀ sample ∈ samples, sample < Size.values component.depth := by
  induction pixels with
  | nil => exact ⟨[], rfl, nofun⟩
  | cons pixel pixels ih =>
    obtain ⟨samples, rfl, fits⟩ := ih fun other among => holds other (List.mem_cons_of_mem _ among)
    cases holds pixel List.mem_cons_self with
    | @cons _ sample _ _ small none =>
      cases none
      refine ⟨sample :: samples, rfl, fun other among => ?_⟩
      obtain rfl | among := List.mem_cons.mp among
      · exact small
      · exact fits other among

/-- Samples on their own. -/
theorem flatten_map_singleton (samples : List Nat) : (samples.map ([·])).flatten = samples := by
  rw [← List.flatMap_def]
  exact List.flatMap_singleton' samples

namespace Expander.Arranged

variable {columns : Nat} {layout : Layout} {palette : Option Palette}
  {components : List Component} {exp : Expander}
  (arranged : exp.Arranged columns layout palette components)
  {pixels : List (List Nat)} (wide : pixels.length = columns)
  (holds : ∀ pixel ∈ pixels, Component.Holds components pixel) (padding : List Bool)

/-- A pixel of whole bytes is found again behind those in front of it. -/
theorem samples_packAll {count : Nat}
    (arranged : exp.Arranged columns (.interleaved count) palette components)
    (deep : ∀ component ∈ components, component.depth ≤ 16)
    (holds : ∀ pixel ∈ pixels, Component.Holds components pixel) {x : Nat}
    (inside : x < pixels.length) :
    (List.range components.length).map
        (exp.sample (pixels.flatMap (Component.packAll components)).toArray x)
      = List.zipWith Component.shown components pixels[x] := by
  have bytes : ∀ pixel ∈ pixels, (Component.packAll components pixel).length = exp.pixelBytes := by
    intro pixel among
    rw [Component.length_packAll (holds pixel among)]
    exact (ComponentScale.totalBytes_eq arranged.scales).symm
  have place := length_flatMap_take bytes inside
  have split : (pixels.flatMap (Component.packAll components)).toArray.toList
      = (pixels.take x).flatMap (Component.packAll components)
        ++ Component.packAll components pixels[x]
        ++ (pixels.drop (x + 1)).flatMap (Component.packAll components) :=
    flatMap_eq_append _ inside
  have found := Component.shown_packAll arranged.scales deep (holds _ (List.getElem_mem inside))
    split ⟨⟨0, #[]⟩, false, 0⟩
  rw [place] at found
  unfold Expander.sample
  rw [arranged.layout_eq]
  exact found

include arranged

/-- The scale of a row with one component. -/
theorem scale_value {component : Component} (single : components = [component]) (sample : Nat) :
    (exp.scale 0).value sample = component.shown sample := by
  have scales := arranged.scales
  rw [single] at scales
  cases given : exp.scales with
  | nil =>
    rw [given] at scales
    cases scales
  | cons scale rest =>
    rw [given] at scales
    cases scales with
    | cons built _ =>
      have first : exp.scale 0 = scale := by
        unfold Expander.scale
        rw [given]
        rfl
      rw [first, Component.value_of_build built]

/-- A row has the samples of all its pixels. -/
theorem sampleCount_eq : exp.sampleCount = columns * layout.colorSpace.components := by
  unfold sampleCount
  rw [arranged.columns_eq, arranged.layout_eq]

include wide holds

/-- **Every pixel is found again.** -/
theorem samples_pack {x : Nat} (inside : x < pixels.length) :
    (List.range layout.colorSpace.components).map
        (exp.sample (layout.pack components pixels padding) x)
      = layout.shown components palette pixels[x] := by
  have layout_eq := arranged.layout_eq
  cases arranged.supports with
  | @gray bits signed whole =>
    obtain ⟨samples, rfl, fits⟩ := Component.exists_samples holds
    rw [List.length_map] at inside
    have found := packedSample_flatMap whole fits padding inside
    show [exp.sample _ x 0] = _
    unfold Expander.sample Layout.pack
    rw [layout_eq]
    dsimp only
    rw [flatten_map_singleton, List.getElem_map, found, arranged.scale_value rfl]
    rfl
  | @indexed bits signed whole =>
    obtain ⟨samples, rfl, fits⟩ := Component.exists_samples holds
    rw [List.length_map] at inside
    have found := packedSample_flatMap whole fits padding inside
    have colors := arranged.palette_eq bits rfl
    show [exp.sample _ x 0, exp.sample _ x 1, exp.sample _ x 2] = _
    unfold Expander.sample Layout.pack
    rw [layout_eq]
    dsimp only
    rw [flatten_map_singleton, List.getElem_map, found, colors, Palette.lookup_eq]
    exact (List.flatMap_singleton _ _).symm
  | @interleaved _ count same few deep =>
    have number : (Layout.interleaved count).colorSpace.components = components.length := by
      rw [same]
      simp only [List.mem_cons, List.not_mem_nil, or_false] at few
      obtain rfl | rfl | rfl | rfl := few <;> rfl
    rw [number]
    exact arranged.samples_packAll (fun _ among => (deep _ among).2) holds inside

/-- **A packed row is expanded to what its pixels stand for.** -/
theorem expand_pack :
    exp.expand (layout.pack components pixels padding)
      = (pixels.flatMap (layout.shown components palette)).toArray := by
  refine Array.toList_inj.mp ?_
  rw [exp.toList_expand, arranged.columns_eq, arranged.layout_eq, ← wide]
  exact flatMap_range fun x inside => arranged.samples_pack wide holds padding inside

/-- **As many indices are clamped as there are beyond the palette.** -/
theorem clampedIn_pack :
    exp.clampedIn (layout.pack components pixels padding) = layout.beyond palette pixels := by
  have layout_eq := arranged.layout_eq
  unfold clampedIn
  rw [layout_eq, arranged.columns_eq, ← wide]
  cases arranged.supports with
  | gray _ => rfl
  | @indexed bits signed whole =>
    obtain ⟨samples, rfl, fits⟩ := Component.exists_samples holds
    have colors := arranged.palette_eq bits rfl
    unfold Layout.pack Layout.beyond
    dsimp only
    rw [flatten_map_singleton, List.length_map, colors]
    have found : (List.range samples.length).map (fun x => packedSample
        (packBits (samples.flatMap (digits bits) ++ padding.map Bool.toNat)) x bits) = samples :=
      List.ext_getElem (by simp) fun x _ inside => by
        rw [List.getElem_map, List.getElem_range, packedSample_flatMap whole fits padding inside]
    have beyond := congrArg (List.countP fun index => exp.palette.count ≤ index) found
    rw [List.countP_map] at beyond
    simp only [Palette.lookup_eq]
    exact beyond
  | interleaved _ _ _ => rfl

end Expander.Arranged

/-- Indices have no sign. -/
theorem Expander.expand_setSigned {exp : Expander} {bits : Nat}
    (indices : exp.layout = .indexed bits) (signed : Bool) (row : Bytes) :
    (exp.setSigned signed).expand row = exp.expand row := by
  have same : (exp.setSigned signed).sample row = exp.sample row := by
    have indices' : (exp.setSigned signed).layout = .indexed bits := indices
    unfold sample
    rw [indices, indices']
    rfl
  unfold expand
  rw [same]
  rfl

/-! ## Rows written -/

namespace Unpacker

/-- A row of more samples than a word counts ends the program. -/
theorem consumeRow_of_le {unpacker : Unpacker κ}
    (beyond : Size.limit ≤ unpacker.expander.sampleCount) (row : Nat) (bytes : Bytes) :
    consumeRow row bytes unpacker = .error .overflow unpacker := by
  unfold consumeRow
  dsimp only
  rw [if_pos beyond]

/-- A row that the sink has room for is written and committed. -/
theorem consumeRow_eq {unpacker : Unpacker κ} {row length : Nat} {bytes : Bytes} {begun : κ}
    (word : unpacker.expander.sampleCount < Size.limit)
    (began : RowSink.beginRow row unpacker.sink = .ok length begun)
    (room : unpacker.expander.sampleCount ≤ length) {samples : Array UInt16} {beyond : Nat}
    (expanded : unpacker.expander.expand bytes = samples)
    (clamped : unpacker.expander.clampedIn bytes = beyond) :
    consumeRow row bytes unpacker =
      match RowSink.commitRow row (RowSink.writeRow row samples begun) with
      | .ok () sink => .ok () ⟨unpacker.expander, sink, unpacker.clamped + beyond⟩
      | .error err sink => .error err ⟨unpacker.expander, sink, unpacker.clamped + beyond⟩ := by
  subst expanded clamped
  unfold consumeRow
  dsimp only
  rw [if_neg (Nat.not_le.mpr word), began]
  exact if_neg (Nat.not_lt.mpr room)

/-- **Unpacking inverts packing.** Pixels are packed, with any bits behind them, and handed as a
row to an unpacker in use. If the sink begins the row and has room for its samples, then what is
written are the values that the samples of the pixels stand for, pixel by pixel, and the sink is
asked to commit the row. Numbers with a sign are counted from the smallest one on. Indices have
none: an unpacker of indices that is told about signs expands rows as before. -/
theorem consumeRow_pack {columns : Nat} {layout : Layout} {palette : Option Palette}
    {components : List Component} {unpacker : Unpacker κ}
    (used : InUse columns layout palette components unpacker) {pixels : List (List Nat)}
    (wide : pixels.length = columns)
    (holds : ∀ pixel ∈ pixels, Component.Holds components pixel) (padding : List Bool)
    {row length : Nat} {begun : κ} (began : RowSink.beginRow row unpacker.sink = .ok length begun)
    (room : columns * layout.colorSpace.components ≤ length) (word : length < Size.limit) :
    (consumeRow row (layout.pack components pixels padding) unpacker =
        match RowSink.commitRow row (RowSink.writeRow row
          (pixels.flatMap (layout.shown components palette)).toArray begun) with
        | .ok () sink =>
          .ok () ⟨unpacker.expander, sink, unpacker.clamped + layout.beyond palette pixels⟩
        | .error err sink =>
          .error err ⟨unpacker.expander, sink, unpacker.clamped + layout.beyond palette pixels⟩)
      ∧ (∀ component ∈ components, component.signed = true → ∀ value : Int,
        -Size.values (component.depth - 1) ≤ value → value < Size.values (component.depth - 1) →
        component.shown (component.twosComplement value)
          = component.table.get (value + Size.values (component.depth - 1)).toNat)
      ∧ (∀ bits, layout = .indexed bits → ∀ signed bytes,
        (unpacker.setSigned signed).expander.expand bytes = unpacker.expander.expand bytes) := by
  have arranged := used.arranged
  refine ⟨?_, fun component among signed value least greatest => ?_, fun bits indices signed => ?_⟩
  · have count := arranged.sampleCount_eq
    have expanded := arranged.expand_pack wide holds padding
    have clamped := arranged.clampedIn_pack wide holds padding
    exact consumeRow_eq (by omega) began (by omega) expanded clamped
  · exact Component.shown_twosComplement signed (arranged.supports.depth_pos among) least greatest
  · exact Expander.expand_setSigned (arranged.layout_eq.trans indices) signed

/-- Three gray levels of four bits with a sign, and four more bits: the smallest level becomes
black, the greatest one white, and zero is in the middle. -/
theorem consumeRow_pack_signed :
    let components : List Component := [{ depth := 4, signed := true }]
    let image : PixelBuffer := ⟨3, 1, .luma, #[0, 0, 0], 0⟩
    let pixels := [[8], [7], [0]]
    let padding := [true, true, true, true]
    ∃ unpacker, InUse 3 (.gray 4) none components unpacker
      ∧ pixels.length = 3 ∧ (∀ pixel ∈ pixels, Component.Holds components pixel)
      ∧ RowSink.beginRow 0 unpacker.sink = .ok 3 image
      ∧ 3 * (Layout.gray 4).colorSpace.components ≤ 3 ∧ 3 < Size.limit
      ∧ (Layout.gray 4).pack components pixels padding = #[0x87, 0x0F]
      ∧ (behind (consumeRow 0 ((Layout.gray 4).pack components pixels padding)
        unpacker)).sink.pixels = #[0, 0xFFFF, 0x8888] := by
  intro components image pixels padding
  have holds : ∀ pixel ∈ pixels, Component.Holds components pixel := by
    intro pixel among
    simp only [pixels, List.mem_cons, List.not_mem_nil, or_false] at among
    obtain rfl | rfl | rfl := among <;> exact .cons (by decide) .nil
  obtain ⟨unpacker, made⟩ : ∃ unpacker : Unpacker PixelBuffer,
      ofDepth 3 4 .gray none image = .ok unpacker := ⟨_, rfl⟩
  have used : InUse 3 (.gray 4) none components (unpacker.setSigned true) :=
    .setSigned true (.ofDepth rfl made)
  cases made
  have began : RowSink.beginRow 0 image = .ok 3 image := rfl
  have room : 3 * (Layout.gray 4).colorSpace.components ≤ 3 := by decide
  have word : 3 < Size.limit := by decide
  refine ⟨_, used, rfl, holds, began, room, word, by decide, ?_⟩
  rw [(consumeRow_pack used rfl holds padding began room word).1]
  decide +kernel

end Unpacker

end

end WpgRaster
