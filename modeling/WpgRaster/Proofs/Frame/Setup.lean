import WpgRaster.Proofs.Row.Assembly
import WpgRaster.Frame.Decode

/-!
# Setting up a frame

Before the first byte is read, everything that can be known is checked.
What a frame is that passed the checks is said by `Ready`: its assembler
holds the empty sheet, and its unpacker agrees with the sink. A frame that
does not pass is reported with an error of its measures or its layout
(`RasterError.OfSetUp`), which aborts no frame, because there is none yet.
-/

namespace WpgRaster

/-- **Errors of setting a frame up**: its format makes no sense, the sink does
not agree with it, or it needs more memory than there is. -/
inductive RasterError.OfSetUp : RasterError → Prop
  /-- A frame or a row of no size. -/
  | zeroDimensions (width height : Nat) : OfSetUp (.zeroDimensions width height)
  /-- A depth that cannot be unpacked. -/
  | unsupportedDepth (depth : Nat) : OfSetUp (.unsupportedDepth depth)
  /-- Too many components, or none. -/
  | unsupportedComponents (count : Nat) : OfSetUp (.unsupportedComponents count)
  /-- Indices without a palette. -/
  | missingPalette (depth : Nat) : OfSetUp (.missingPalette depth)
  /-- A size beyond the address space. -/
  | tooLarge (extent : Extent) (limit found : Nat) : OfSetUp (.tooLarge extent limit found)
  /-- Memory that is not there. -/
  | allocationFailure (bytes : Nat) : OfSetUp (.allocationFailure bytes)
  /-- A sink of another width or height, or of other components. How many samples
  its rows take shows only when one of them is begun. -/
  | dimensionMismatch {measure : Measure} (expected found : Nat) : measure ≠ .rowLength →
    OfSetUp (.dimensionMismatch measure expected found)

/-- None of them aborts a frame. -/
theorem RasterError.OfSetUp.abortsFrame_eq {err : RasterError} (failed : err.OfSetUp) :
    err.abortsFrame = false := by
  cases failed <;> rfl

/-- **The result of a check**: a property if it passes, and otherwise an
error of setting up. -/
def Yields {α : Type} (result : Except RasterError α) (passed : α → Prop) : Prop :=
  match result with
  | .ok a => passed a
  | .error err => err.OfSetUp

namespace Yields

variable {α β : Type} {result : Except RasterError α} {passed : α → Prop}

theorem of_ok (yields : Yields result passed) {a : α} (ok : result = .ok a) : passed a := by
  rw [ok] at yields
  exact yields

theorem of_error (yields : Yields result passed) {err : RasterError}
    (failed : result = .error err) : err.OfSetUp := by
  rw [failed] at yields
  exact yields

/-- A weaker property. -/
theorem imp (yields : Yields result passed) {passed' : α → Prop}
    (weaker : ∀ a, passed a → passed' a) : Yields result passed' := by
  cases result with
  | ok a => exact weaker a yields
  | error err => exact yields

/-- One check after another. -/
theorem bind {next : α → Except RasterError β} {passed' : β → Prop}
    (first : Yields result passed) (second : ∀ a, passed a → Yields (next a) passed') :
    Yields (result >>= next) passed' := by
  cases result with
  | ok a => exact second a first
  | error err => exact first

/-- A check with two outcomes. -/
theorem guard {failed : Prop} [Decidable failed] {err : RasterError}
    {next : PUnit → Except RasterError α} (known : err.OfSetUp)
    (passes : ¬ failed → Yields (next ()) passed) :
    Yields (if failed then throw err >>= next else next ()) passed := by
  by_cases wrong : failed
  · rw [if_pos wrong]
    exact known
  · rw [if_neg wrong]
    exact passes wrong

end Yields

/-! ## Unpackers -/

/-- Components take bytes. -/
theorem Component.totalBytes_pos {components : List Component} (some : components ≠ []) :
    0 < totalBytes components := by
  cases components with
  | nil => exact absurd rfl some
  | cons component rest =>
    have stored : 0 < component.storedBytes := by
      unfold storedBytes
      split <;> decide
    exact Nat.add_pos_left stored _

namespace Unpacker

variable {κ : Type} [RowSink κ]

/-- **An unpacker that agrees with its sink** on the width of a row and on
the samples of a pixel. -/
structure Fits (sink : κ) (unpacker : Unpacker κ) : Prop where
  /-- Rows go to the sink. -/
  sink_eq : unpacker.sink = sink
  /-- No index was clamped yet. -/
  clamped : unpacker.clamped = 0
  /-- Rows have as many pixels as those of the sink. -/
  columns : unpacker.expander.columns = RowSink.width sink
  /-- Pixels are those of the sink. -/
  colorSpace : unpacker.expander.layout.colorSpace = RowSink.colorSpace sink

theorem scales_yields (components : List Component) :
    Yields (components.mapM ComponentScale.build) fun _ => True := by
  induction components with
  | nil =>
    rw [List.mapM_nil]
    exact trivial
  | cons component rest ih =>
    have table : Yields (QuantumTable.build component.depth) fun _ => True := by
      unfold QuantumTable.build
      split
      · exact .unsupportedDepth _
      · trivial
    have scale : Yields (ComponentScale.build component) fun _ => True :=
      table.bind fun _ _ => trivial
    rw [List.mapM_cons]
    exact scale.bind fun _ _ => ih.bind fun _ _ => trivial

theorem build_yields (columns : Nat) (layout : Layout) (components : List Component)
    (palette : Palette) (sink : κ) :
    Yields (build columns layout components palette sink)
      fun unpacker => Fits sink unpacker ∧ unpacker.expander.columns = columns := by
  unfold build
  refine .guard (.dimensionMismatch _ _ nofun) fun wide => ?_
  refine .guard (.dimensionMismatch _ _ nofun) fun space => ?_
  refine (scales_yields components).bind fun scales _ => ?_
  exact ⟨⟨rfl, rfl, (Decidable.not_not.mp wide).symm, (Decidable.not_not.mp space).symm⟩, rfl⟩

theorem ofDepth_yields (columns depth : Nat) (model : ColorModel) (palette : Option Palette)
    (sink : κ) : Yields (ofDepth columns depth model palette sink)
      fun unpacker => (Fits sink unpacker ∧ unpacker.expander.columns = columns) ∧ 0 < depth := by
  have layouts : Yields (Layout.resolve depth model) fun _ => 0 < depth := by
    unfold Layout.resolve
    split
    all_goals first | exact Nat.succ_pos _ | exact .unsupportedDepth _
  have palettes : ∀ layout, Yields (paletteFor layout depth palette) fun _ => True := by
    intro layout
    unfold paletteFor
    repeat' split
    all_goals first | trivial | exact .missingPalette _
  unfold ofDepth
  exact layouts.bind fun layout some => (palettes layout).bind fun _ _ =>
    (build_yields ..).imp fun _ fits => ⟨fits, some⟩

theorem ofComponents_yields (columns : Nat) (components : List Component) (sink : κ) :
    Yields (ofComponents columns components sink) fun unpacker =>
      (Fits sink unpacker ∧ unpacker.expander.columns = columns)
        ∧ 0 < Component.totalBytes components := by
  have spaces : Yields (colorSpaceOfComponents components)
      fun _ => 0 < Component.totalBytes components := by
    unfold colorSpaceOfComponents
    split
    · exact .unsupportedComponents _
    next known =>
      have some : components ≠ [] := fun none => known (.inl (congrArg List.length none))
      split
      · exact .unsupportedDepth _
      · exact Component.totalBytes_pos some
  unfold ofComponents
  exact spaces.bind fun _ some => (build_yields ..).imp fun _ fits => ⟨fits, some⟩

/-- Indices refer to a palette with a colour in it. -/
theorem paletteFor_indexed {bits depth : Nat} {palette : Option Palette} {colors : Palette}
    (found : paletteFor (.indexed bits) depth palette = .ok colors) :
    palette = some colors ∧ colors.isEmpty = false := by
  cases palette with
  | none => cases found
  | some palette =>
    unfold paletteFor at found
    dsimp only at found
    split at found
    · cases found
    · next some =>
      cases found
      exact ⟨rfl, Bool.eq_false_iff.mpr some⟩

/-- **An unpacker of pixels of a depth** has their layout, and the palette for it. -/
theorem ofDepth_ok {columns depth : Nat} {model : ColorModel} {palette : Option Palette} {sink : κ}
    {unpacker : Unpacker κ} (built : ofDepth columns depth model palette sink = .ok unpacker) :
    Layout.resolve depth model = .ok unpacker.expander.layout
      ∧ paletteFor unpacker.expander.layout depth palette = .ok unpacker.expander.palette := by
  obtain ⟨layout, resolved, built⟩ := exists_of_except_bind built
  obtain ⟨colors, found, built⟩ := exists_of_except_bind built
  unfold build at built
  obtain ⟨-, built⟩ := of_except_guard built
  obtain ⟨-, built⟩ := of_except_guard built
  obtain ⟨scales, -, built⟩ := exists_of_except_bind built
  cases built
  exact ⟨resolved, found⟩

end Unpacker

/-! ## Frames -/

namespace FrameFormat

variable {κ : Type} [RowSink κ] {format : FrameFormat} {sink : κ}
  {rows : RowState (Unpacker κ)}

/-- **A frame that is set up**, before the first byte. -/
structure Ready (format : FrameFormat) (sink : κ) (rows : RowState (Unpacker κ)) : Prop where
  /-- Nothing is written yet. -/
  holds : Holds rows.consumer rows.assembler.shape {} rows
  /-- The assembler makes the rows of the format. -/
  rows_eq : rows.assembler.rows = format.rows
  /-- It has one buffer or two, as the format says. -/
  paired : rows.assembler.buffer.isPaired = format.paired
  /-- Rows have the width of the format. -/
  width : format.rowByteWidth = .ok rows.assembler.width
  /-- There are rows. -/
  some : format.rows ≠ 0
  /-- The sink has as many. -/
  height : RowSink.height sink = format.rows
  /-- The unpacker agrees with the sink. -/
  fits : rows.consumer.Fits sink
  /-- A word counts the samples of a row. -/
  word : rows.consumer.expander.sampleCount < Size.limit

/-- The width of a packed row holds its bits, and a word counts them. -/
theorem rowByteWidth_ok {width : Nat} (found : format.rowByteWidth = .ok width) :
    format.bitsPerPixel * format.columns + 7 < Size.limit
      ∧ width = (format.bitsPerPixel * format.columns + 7) / 8 := by
  unfold rowByteWidth at found
  cases counted : byteWidth? format.bitsPerPixel format.columns with
  | none =>
    rw [counted] at found
    cases found
  | some bytes =>
    obtain ⟨bits, product, rest⟩ := Option.bind_eq_some_iff.mp counted
    obtain ⟨more, sum, rest⟩ := Option.bind_eq_some_iff.mp rest
    obtain ⟨rfl, -⟩ := Size.mul?_eq_some.mp product
    obtain ⟨rfl, word⟩ := Size.add?_eq_some.mp sum
    rw [counted] at found
    cases found
    cases rest
    exact ⟨word, rfl⟩

/-- **A word counts the samples of a row** whose bytes there is memory for, since each pixel has a
bit or more and four samples at most. -/
theorem columns_mul_lt {width : Nat} (found : format.rowByteWidth = .ok width)
    (some : 0 < format.bitsPerPixel) (granted : Size.allocatable width) (space : ColorSpace) :
    format.columns * space.components < Size.limit := by
  obtain ⟨-, wide⟩ := rowByteWidth_ok found
  have bits : format.columns ≤ format.bitsPerPixel * format.columns :=
    Nat.le_mul_of_pos_left _ some
  have few : space.components ≤ 4 := by cases space <;> decide
  have samples : format.columns * space.components ≤ format.columns * 4 :=
    Nat.mul_le_mul_left _ few
  have bytes : width < 0x1000000000000 := of_decide_eq_true granted
  unfold Size.limit
  omega

/-- **Setting up checks everything** that is known before the first byte. -/
theorem setUp_yields (format : FrameFormat) (sink : κ) :
    Yields (format.setUp sink) (format.Ready sink) := by
  have widths : Yields format.rowByteWidth fun width => format.rowByteWidth = .ok width := by
    unfold rowByteWidth
    split
    · rfl
    · exact .tooLarge _ _ _
  unfold setUp
  refine .guard (.zeroDimensions _ _) fun measures => ?_
  refine .guard (.dimensionMismatch _ _ nofun) fun height => widths.bind fun width wide => ?_
  have last : 0 < format.bitsPerPixel → ∀ unpacker : Unpacker κ,
      unpacker.Fits sink ∧ unpacker.expander.columns = format.columns → Yields (do
        let assembler ← RowAssembler.make width format.rows format.paired
        return { assembler, consumer := unpacker }) (format.Ready sink) := by
    intro some unpacker ⟨fits, columns⟩
    cases made : RowAssembler.make width format.rows format.paired with
    | ok asm =>
      have granted : Size.allocatable width := by
        unfold RowAssembler.make at made
        repeat' split at made
        all_goals first | assumption | cases made
      have holds := Holds.of_make made unpacker
      have shape := holds.shape_eq
      exact
        { holds := shape ▸ holds
          rows_eq := congrArg Shape.rows shape
          paired := congrArg Shape.paired shape
          width := wide.trans (congrArg Except.ok (congrArg Shape.width shape).symm)
          some := fun none => measures (.inr none)
          height := Decidable.not_not.mp height
          fits
          word := by
            unfold Expander.sampleCount
            rw [columns]
            exact columns_mul_lt wide some granted _ }
    | error err =>
      unfold RowAssembler.make at made
      repeat' split at made
      all_goals cases made
      · exact .zeroDimensions _ _
      · exact .allocationFailure _
  have signed : ∀ unpacker : Unpacker κ,
      unpacker.Fits sink ∧ unpacker.expander.columns = format.columns →
      (if format.signed then unpacker.setSigned true else unpacker).Fits sink
        ∧ (if format.signed then unpacker.setSigned true else unpacker).expander.columns
          = format.columns := by
    intro unpacker ⟨fits, columns⟩
    split
    · exact ⟨⟨fits.sink_eq, fits.clamped, fits.columns, fits.colorSpace⟩, columns⟩
    · exact ⟨fits, columns⟩
  cases given : format.components with
  | some components =>
    have bits : format.bitsPerPixel = Component.totalBytes components * 8 := by
      unfold bitsPerPixel
      rw [given]
    exact (Unpacker.ofComponents_yields ..).bind fun _ fits =>
      last (bits ▸ Nat.mul_pos fits.2 (by decide)) _ (signed _ fits.1)
  | none =>
    have bits : format.bitsPerPixel = format.depth := by
      unfold bitsPerPixel
      rw [given]
    exact (Unpacker.ofDepth_yields ..).bind fun _ fits =>
      last (bits ▸ fits.2) _ (signed _ fits.1)

/-- **A frame of pixels of a depth** has columns, and the unpacker of the depth. -/
theorem exists_of_setUp_ok (ready : format.setUp sink = .ok rows)
    (plain : format.components = none) (unsigned : format.signed = false) :
    format.columns ≠ 0 ∧ Unpacker.ofDepth format.columns format.depth format.model format.palette
      sink = .ok rows.consumer := by
  unfold setUp at ready
  rw [plain, unsigned] at ready
  obtain ⟨measures, ready⟩ := of_except_guard ready
  obtain ⟨-, ready⟩ := of_except_guard ready
  obtain ⟨width, -, ready⟩ := exists_of_except_bind ready
  obtain ⟨unpacker, built, ready⟩ := exists_of_except_bind ready
  obtain ⟨assembler, -, ready⟩ := exists_of_except_bind ready
  cases ready
  exact ⟨fun none => measures (.inl none), built⟩

end FrameFormat

end WpgRaster
