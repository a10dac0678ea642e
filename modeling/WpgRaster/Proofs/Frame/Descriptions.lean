import WpgRaster.Proofs.Frame.Recording
import WpgRaster.Proofs.Frame.Unpackers

/-!
# Two descriptions of a pixel

Gray levels of eight or sixteen bits and colours of twenty-four can be described by a depth and a
model, or by the components that they are made of (`Component.ofDepth?`). For eight bits this leads
to different layouts, one of samples in bits and one of samples in bytes, but a byte that is cut
into pieces of eight bits is a single piece (`packedSample_byte`). So unpackers that are made in
either way cannot be told apart by what is asked of them (`UnpackOp.trace_of_alike`), and frames
that are described in either way are decoded alike (`FrameFormat.decode_of_alike`).

Components may also have a sign of their own. To make an unpacker for them is to make it for
components without one and to tell it that they have (`Unpacker.ofComponents_signed`).
-/

namespace WpgRaster

/-- **The components of pixels that have a depth**, if these are whole bytes. -/
def Component.ofDepth? : Nat → ColorModel → Option (List Component)
  | 8, .gray => some [{ depth := 8 }]
  | 16, .gray => some [{ depth := 16 }]
  | 24, .direct => some [{ depth := 8 }, { depth := 8 }, { depth := 8 }]
  | _, _ => none

/-- Such pixels take as many bits as their components. -/
theorem Component.totalBytes_of_ofDepth? {depth : Nat} {model : ColorModel}
    {components : List Component} (known : ofDepth? depth model = some components) :
    totalBytes components * 8 = depth := by
  unfold ofDepth? at known
  split at known
  all_goals cases known
  all_goals rfl

/-- They have the same colour space. -/
theorem Component.colorSpace_of_ofDepth? {depth : Nat} {model : ColorModel}
    {components : List Component} (known : ofDepth? depth model = some components) :
    ∃ space, colorSpaceOf depth model = .ok space
      ∧ colorSpaceOfComponents components = .ok space := by
  unfold ofDepth? at known
  split at known
  all_goals cases known
  all_goals exact ⟨_, rfl, rfl⟩

/-! ## Rows expanded alike -/

/-- **A piece of eight bits is a byte.** -/
theorem packedSample_byte (row : Bytes) (x : Nat) :
    packedSample row x 8 = (row[x]?.getD 0).toNat := by
  unfold packedSample
  dsimp only
  rw [Nat.mul_div_cancel x (by decide), Nat.mul_mod_left]
  show _ / 1 % 256 = _
  rw [Nat.div_one]
  exact Nat.mod_eq_of_lt (UInt8.toNat_lt _)

namespace Expander

/-- **Expanders that expand rows alike**: they are the same, or they differ in how the layout of
gray levels of a byte is described. -/
inductive Alike : Expander → Expander → Prop
  /-- The same expander. -/
  | same (exp : Expander) : Alike exp exp
  /-- Gray levels of a byte. -/
  | gray (columns : Nat) {scale : ComponentScale} (palette : Palette) : scale.wide = false →
    Alike ⟨.gray 8, columns, [scale], palette⟩ ⟨.interleaved 1, columns, [scale], palette⟩

namespace Alike

variable {exp exp' : Expander}

theorem setSigned (alike : exp.Alike exp') (signed : Bool) :
    (exp.setSigned signed).Alike (exp'.setSigned signed) := by
  cases alike with
  | same => exact .same _
  | gray columns palette narrow => exact .gray columns palette narrow

theorem sampleCount_eq (alike : exp.Alike exp') : exp.sampleCount = exp'.sampleCount := by
  cases alike <;> rfl

theorem clampedIn_eq (alike : exp.Alike exp') (row : Bytes) :
    exp.clampedIn row = exp'.clampedIn row := by
  cases alike <;> rfl

/-- **Rows are expanded alike**, sample by sample. -/
theorem expand_eq (alike : exp.Alike exp') (row : Bytes) : exp.expand row = exp'.expand row := by
  cases alike with
  | same => rfl
  | @gray columns scale palette narrow =>
    refine congrArg Array.ofFn (funext fun i => ?_)
    have bytes : ComponentScale.totalBytes [scale] = 1 := by
      unfold ComponentScale.totalBytes ComponentScale.totalBytes ComponentScale.storedBytes
      rw [narrow]
      rfl
    show scale.value (packedSample row (i / 1) 8)
      = (Expander.scale ⟨.interleaved 1, columns, [scale], palette⟩ (i % 1)).value
        ((Expander.scale ⟨.interleaved 1, columns, [scale], palette⟩ (i % 1)).rawAt row
          (i / 1 * ComponentScale.totalBytes [scale]
            + ComponentScale.totalBytes ([scale].take (i % 1))))
    rw [Nat.mod_one, Nat.div_one, bytes, Nat.mul_one, packedSample_byte]
    show _ = scale.value (scale.rawAt row (i + 0))
    unfold ComponentScale.rawAt
    rw [narrow, Nat.add_zero]
    rfl

end Alike

end Expander

/-! ## Unpackers that cannot be told apart -/

/-- What can be asked of an unpacker. -/
inductive UnpackOp
  /-- To treat components as signed or as unsigned. -/
  | setSigned (signed : Bool)
  /-- To unpack a row. -/
  | consumeRow (row : Nat) (bytes : Bytes)
  deriving DecidableEq, Repr

namespace UnpackOp

variable {κ : Type} [RowSink κ]

/-- Carries an operation out. -/
def perform : UnpackOp → EStateM RasterError (Unpacker κ) Unit
  | setSigned signed => modify (·.setSigned signed)
  | consumeRow row bytes => Unpacker.consumeRow row bytes

/-- **What is seen** of an unpacker that is asked for one thing after another: how it went, how
many indices were clamped so far, and what became of the sink. -/
def trace : List UnpackOp → Unpacker κ → List (Except RasterError Unit × Nat × κ)
  | [], _ => []
  | op :: ops, unpacker =>
    match op.perform unpacker with
    | .ok () unpacker => (.ok (), unpacker.clamped, unpacker.sink) :: trace ops unpacker
    | .error err unpacker => (.error err, unpacker.clamped, unpacker.sink) :: trace ops unpacker

end UnpackOp

namespace Unpacker

variable {κ : Type} [RowSink κ]

/-- **Unpackers that expand rows alike**, into the same sink. -/
structure Alike (unpacker unpacker' : Unpacker κ) : Prop where
  /-- Rows are expanded alike. -/
  expander : unpacker.expander.Alike unpacker'.expander
  /-- The sink is the same. -/
  sink : unpacker.sink = unpacker'.sink
  /-- As many indices were clamped. -/
  clamped : unpacker.clamped = unpacker'.clamped

omit [RowSink κ] in
theorem Alike.setSigned {unpacker unpacker' : Unpacker κ} (alike : unpacker.Alike unpacker')
    (signed : Bool) : (unpacker.setSigned signed).Alike (unpacker'.setSigned signed) :=
  ⟨alike.expander.setSigned signed, alike.sink, alike.clamped⟩

/-- **They take and refuse the same rows.** -/
theorem consume_alike : ConsumerSimulates (Alike : Unpacker κ → Unpacker κ → Prop) := by
  rintro row bytes ⟨expander, sink, clamped⟩ ⟨expander', sink', clamped'⟩ ⟨alike, same, same'⟩
  dsimp only at alike same same'
  subst same same'
  show Corresponds _ (consumeRow row bytes _) (consumeRow row bytes _)
  unfold consumeRow
  dsimp only
  rw [← alike.sampleCount_eq, ← alike.expand_eq, ← alike.clampedIn_eq]
  by_cases word : Size.limit ≤ expander.sampleCount
  · rw [if_pos word, if_pos word]
    exact .error ⟨alike, rfl, rfl⟩
  rw [if_neg word, if_neg word]
  cases RowSink.beginRow row sink with
  | error err sink => exact .error ⟨alike, rfl, rfl⟩
  | ok length sink =>
    dsimp only
    split
    · exact .error ⟨alike, rfl, rfl⟩
    · cases RowSink.commitRow row (RowSink.writeRow row (expander.expand bytes) sink) with
      | ok _ sink => exact .ok ⟨alike, rfl, rfl⟩
      | error err sink => exact .error ⟨alike, rfl, rfl⟩

end Unpacker

namespace UnpackOp

variable {κ : Type} [RowSink κ] {unpacker unpacker' : Unpacker κ}

theorem perform_simulates (op : UnpackOp) :
    Simulates (Unpacker.Alike : Unpacker κ → Unpacker κ → Prop) op.perform op.perform := by
  cases op with
  | setSigned signed => exact fun unpacker unpacker' alike => .ok (alike.setSigned signed)
  | consumeRow row bytes => exact Unpacker.consume_alike row bytes

/-- **Unpackers that are alike cannot be told apart**, whatever is asked of them. -/
theorem trace_of_alike (alike : unpacker.Alike unpacker') (ops : List UnpackOp) :
    trace ops unpacker = trace ops unpacker' := by
  induction ops generalizing unpacker unpacker' with
  | nil => rfl
  | cons op ops ih =>
    have results := perform_simulates op _ _ alike
    unfold trace
    generalize op.perform unpacker = result, op.perform unpacker' = result' at results
    cases results with
    | ok alike =>
      dsimp only
      rw [alike.clamped, alike.sink, ih alike]
    | error alike =>
      dsimp only
      rw [alike.clamped, alike.sink, ih alike]

/-- Nor can unpackers that are made alike. -/
theorem trace_of_sameOutcome {result result' : Except RasterError (Unpacker κ)}
    (same : SameOutcome Unpacker.Alike result result') (ops : List UnpackOp) :
    trace ops <$> result = trace ops <$> result' := by
  cases same with
  | ok alike => exact congrArg Except.ok (trace_of_alike alike ops)
  | error => rfl

end UnpackOp

/-! ## Unpackers of either description -/

/-- Components are unpacked to the same colours, with a sign and without. -/
theorem Component.colorSpace_signed (components : List Component) (signed : Bool) :
    colorSpaceOfComponents (components.map ({ · with signed }))
      = colorSpaceOfComponents components := by
  unfold colorSpaceOfComponents
  rw [List.length_map, List.find?_map]
  split
  · rfl
  · have pred : ((fun c : Component => decide (c.depth = 0) || decide (16 < c.depth))
        ∘ fun c : Component => { c with signed })
        = fun c => decide (c.depth = 0) || decide (16 < c.depth) := rfl
    rw [pred]
    cases components.find? fun c => decide (c.depth = 0) || decide (16 < c.depth) <;> rfl

/-- Signs change the scales of components one by one. -/
theorem Component.mapM_build_signed (components : List Component) (signed : Bool) :
    (components.map ({ · with signed })).mapM ComponentScale.build
      = (List.map (·.setSigned signed)) <$> components.mapM ComponentScale.build := by
  have one : ∀ component : Component, ComponentScale.build { component with signed }
      = (·.setSigned signed) <$> ComponentScale.build component := by
    intro component
    unfold ComponentScale.build
    cases QuantumTable.build component.depth <;> rfl
  induction components with
  | nil => rfl
  | cons component rest ih =>
    rw [List.map_cons, List.mapM_cons, List.mapM_cons, one, ih]
    cases ComponentScale.build component with
    | error err => rfl
    | ok scale => cases rest.mapM ComponentScale.build <;> rfl

namespace Unpacker

variable {κ : Type} [RowSink κ]

theorem build_signed (columns : Nat) (layout : Layout) (components : List Component)
    (signed : Bool) (palette : Palette) (sink : κ) :
    build columns layout (components.map ({ · with signed })) palette sink
      = (·.setSigned signed) <$> build columns layout components palette sink := by
  unfold build
  rw [Component.mapM_build_signed]
  refine map_guard (map_guard ?_)
  cases components.mapM ComponentScale.build <;> rfl

/-- **An unpacker for components with a sign** is one that was told that they have it. -/
theorem ofComponents_signed (columns : Nat) (components : List Component) (signed : Bool)
    (sink : κ) : ofComponents columns (components.map ({ · with signed })) sink
      = (·.setSigned signed) <$> ofComponents columns components sink := by
  unfold ofComponents
  rw [Component.colorSpace_signed, List.length_map]
  cases colorSpaceOfComponents components with
  | error err => rfl
  | ok space => exact build_signed columns _ components signed _ sink

/-- **Both descriptions make unpackers that are alike**, or the same error. -/
theorem ofDepth_alike {depth : Nat} {model : ColorModel} {components : List Component}
    (known : Component.ofDepth? depth model = some components) (columns : Nat)
    (palette : Option Palette) (sink : κ) :
    SameOutcome Alike (ofDepth columns depth model palette sink)
      (ofComponents columns components sink) := by
  have refl : ∀ unpacker : Unpacker κ, unpacker.Alike unpacker := fun unpacker =>
    ⟨.same _, rfl, rfl⟩
  unfold Component.ofDepth? at known
  split at known
  all_goals cases known
  · show SameOutcome Alike (build columns (.gray 8) [{ depth := 8 }] (.withCapacity 0) sink)
      (build columns (.interleaved 1) [{ depth := 8 }] (.withCapacity 0) sink)
    unfold build
    refine .ite (fun _ => .error) fun _ => .ite (fun _ => .error) fun _ => ?_
    rw [List.mapM_cons]
    cases built : ComponentScale.build { depth := 8 } with
    | error err => exact .error
    | ok scale =>
      refine .ok ⟨.gray columns (.withCapacity 0) ?_, rfl, rfl⟩
      rw [Component.eq_of_build built]
      rfl
  · exact .refl refl (build columns (.interleaved 1) [{ depth := 16 }] (.withCapacity 0) sink)
  · exact .refl refl (build columns (.interleaved 3) (List.replicate 3 { depth := 8 })
      (.withCapacity 0) sink)

end Unpacker

/-! ## Frames of either description -/

namespace FrameFormat

variable {σ κ : Type} [ByteSource σ] [RowSink κ] {format format' : FrameFormat} {sink : κ}

/-- **Frames of the same measures are set up alike** if their unpackers are made alike. -/
theorem setUp_of_unpackers (format format' : FrameFormat)
    (columns : format.columns = format'.columns) (rows : format.rows = format'.rows)
    (paired : format.paired = format'.paired)
    (width : format.rowByteWidth = format'.rowByteWidth)
    (unpackers : SameOutcome Unpacker.Alike (format.unpacker sink) (format'.unpacker sink)) :
    SameOutcome (RowState.Related Unpacker.Alike) (format.setUp sink) (format'.setUp sink) := by
  rw [setUp_eq, setUp_eq, columns, rows, paired, width]
  refine .ite (fun _ => .error) fun _ => .ite (fun _ => .error) fun _ => ?_
  refine (SameOutcome.refl (fun _ => rfl) _).bind fun width _ same => ?_
  cases same
  refine unpackers.bind fun unpacker unpacker' alike => ?_
  refine (SameOutcome.refl (fun _ => rfl) _).bind fun assembler _ same => ?_
  cases same
  exact .ok ⟨rfl, alike⟩

/-- **Frames that are set up alike are decoded alike**, filler rows included. -/
theorem decode_of_alike
    (setUps : SameOutcome (RowState.Related Unpacker.Alike) (format.setUp sink)
      (format'.setUp sink))
    (compression : format.compression = format'.compression) (source : σ) (stop : Stop) :
    format.decode source sink stop = format'.decode source sink stop := by
  generalize ready : format.setUp sink = result, ready' : format'.setUp sink = result' at setUps
  cases setUps with
  | error => rw [decode_of_error ready, decode_of_error ready']
  | ok related =>
    have consumes : ConsumerSimulates (Unpacker.Alike : Unpacker κ → Unpacker κ → Prop) :=
      Unpacker.consume_alike
    obtain ⟨result, rest, asked, unpacker, unpacker', alike, into, into', clamped, clamped'⟩
      | ⟨_, _, failed⟩ := decode_of_setUps (SourceSimulates.refl σ).compares consumes compression
        ready ready' (rfl : source = source) related stop
    · -- what is left of the frame is the same, field by field
      have sinks := into.trans (alike.sink.trans into'.symm)
      have indices := clamped.trans (alike.clamped.trans clamped'.symm)
      clear ready ready' into into' clamped clamped'
      generalize format.decode source sink stop = decoded,
        format'.decode source sink stop = decoded' at result rest asked sinks indices ⊢
      obtain ⟨_, _, _, _, _⟩ := decoded
      obtain ⟨_, _, _, _, _⟩ := decoded'
      dsimp only at result rest asked sinks indices
      rw [result, rest, asked, sinks, indices]
    · exact failed.elim

/-- The frame with pixels of a depth. -/
def ofDepth (format : FrameFormat) (depth : Nat) (model : ColorModel) : FrameFormat :=
  { format with depth, model, components := none }

/-- The frame with pixels of some components. -/
def ofComponents (format : FrameFormat) (components : List Component) : FrameFormat :=
  { format with components := some components }

variable {depth : Nat} {model : ColorModel} {components : List Component}
  (known : Component.ofDepth? depth model = some components)

include known

/-- Packed rows are as wide in either description. -/
theorem rowByteWidth_described (format : FrameFormat) :
    (format.ofDepth depth model).rowByteWidth = (format.ofComponents components).rowByteWidth := by
  have bits : (format.ofDepth depth model).bitsPerPixel
      = (format.ofComponents components).bitsPerPixel :=
    (Component.totalBytes_of_ofDepth? known).symm
  unfold rowByteWidth
  rw [bits]
  rfl

omit known in
/-- A sign takes no bytes. -/
theorem rowByteWidth_signed (format : FrameFormat) (components : List Component) (signed : Bool) :
    (format.ofComponents (components.map ({ · with signed }))).rowByteWidth
      = (format.ofComponents components).rowByteWidth := by
  have bits : (format.ofComponents (components.map ({ · with signed }))).bitsPerPixel
      = (format.ofComponents components).bitsPerPixel :=
    congrArg (· * 8) (Component.totalBytes_signed components signed)
  unfold rowByteWidth
  rw [bits]
  rfl

omit [ByteSource σ] in
/-- **Unpackers of frames are made alike** in either description. -/
theorem unpacker_described (format : FrameFormat) (sink : κ) :
    SameOutcome Unpacker.Alike ((format.ofDepth depth model).unpacker sink)
      ((format.ofComponents components).unpacker sink) := by
  refine (Unpacker.ofDepth_alike known format.columns format.palette sink).bind
    fun unpacker unpacker' alike => .ok ?_
  show Unpacker.Alike (if format.signed then _ else _) (if format.signed then _ else _)
  split
  · exact alike.setSigned true
  · exact alike

omit [ByteSource σ] in
/-- They are made alike if the sign is the components' own. -/
theorem unpacker_described_signed (format : FrameFormat) (sink : κ) :
    SameOutcome Unpacker.Alike (({ format with signed := true }.ofDepth depth model).unpacker sink)
      ((format.ofComponents (components.map ({ · with signed := true }))).unpacker sink) := by
  have made := Unpacker.ofDepth_alike known format.columns format.palette sink
  show SameOutcome Unpacker.Alike
    (Unpacker.ofDepth format.columns depth model format.palette sink >>= fun unpacker =>
      pure (unpacker.setSigned true))
    (Unpacker.ofComponents format.columns _ sink >>= fun unpacker =>
      pure (if format.signed then unpacker.setSigned true else unpacker))
  rw [Unpacker.ofComponents_signed, bind_map_left]
  refine made.bind fun unpacker unpacker' alike => .ok ?_
  -- to be told twice is to be told once
  have twice : (unpacker'.setSigned true).setSigned true = unpacker'.setSigned true := by
    unfold Unpacker.setSigned Expander.setSigned
    dsimp only
    rw [List.map_map]
    rfl
  cases format.signed with
  | false => exact alike.setSigned true
  | true =>
    show Unpacker.Alike _ ((unpacker'.setSigned true).setSigned true)
    rw [twice]
    exact alike.setSigned true

end FrameFormat

/-- **Both descriptions of a pixel agree.** Pixels of eight or sixteen bits of gray and of
twenty-four bits of colour are unpacked to the same colour space as their components. Unpackers
that are made in either way, of any number of columns and for any sink, fail alike or cannot be
told apart by what is asked of them: by rows of full width (or of any other, if the bytes that are
missing count as zero), and by being told that components are signed or that they are not. To have
been told that they are signed is to have been made of signed components. Frames are as wide in
either description, and they are decoded alike, from any source and into any sink, whatever their
compression: the outcome, the source, the sink, the stop and the number of clamped indices are the
same. -/
theorem descriptions_agree {depth : Nat} {model : ColorModel} {components : List Component}
    (known : Component.ofDepth? depth model = some components) :
    let signed := components.map ({ · with signed := true })
    (∃ space, colorSpaceOf depth model = .ok space
      ∧ colorSpaceOfComponents components = .ok space)
    ∧ (∀ (κ : Type) [RowSink κ] (columns : Nat) (palette : Option Palette) (sink : κ)
        (ops : List UnpackOp),
      let unpacker := Unpacker.ofDepth columns depth model palette sink
      UnpackOp.trace ops <$> unpacker
          = UnpackOp.trace ops <$> Unpacker.ofComponents columns components sink
        ∧ UnpackOp.trace ops <$> (·.setSigned true) <$> unpacker
          = UnpackOp.trace ops <$> Unpacker.ofComponents columns signed sink)
    ∧ ∀ (σ κ : Type) [ByteSource σ] [RowSink κ] (format : FrameFormat) (source : σ) (sink : κ)
        (stop : Stop),
      let frame := format.ofDepth depth model
      frame.colorSpace = (format.ofComponents components).colorSpace
        ∧ frame.rowByteWidth = (format.ofComponents components).rowByteWidth
        ∧ frame.decode source sink stop = (format.ofComponents components).decode source sink stop
        ∧ { frame with signed := true }.decode source sink stop
          = (format.ofComponents signed).decode source sink stop := by
  intro signed
  have space := Component.colorSpace_of_ofDepth? known
  refine ⟨space, fun κ _ columns palette sink ops => ⟨?_, ?_⟩,
    fun σ κ _ _ format source sink stop => ⟨?_, ?_, ?_, ?_⟩⟩
  · exact UnpackOp.trace_of_sameOutcome (Unpacker.ofDepth_alike known columns palette sink) ops
  · rw [Unpacker.ofComponents_signed]
    refine UnpackOp.trace_of_sameOutcome ?_ ops
    exact (Unpacker.ofDepth_alike known columns palette sink).bind fun _ _ alike =>
      .ok (alike.setSigned true)
  · obtain ⟨_, one, other⟩ := space
    exact one.trans other.symm
  · exact FrameFormat.rowByteWidth_described known format
  · have setUps := FrameFormat.setUp_of_unpackers (format.ofDepth depth model)
      (format.ofComponents components) rfl rfl rfl (FrameFormat.rowByteWidth_described known format)
      (FrameFormat.unpacker_described known format sink)
    exact FrameFormat.decode_of_alike setUps rfl source stop
  · have wide := (FrameFormat.rowByteWidth_described known format).trans
      (FrameFormat.rowByteWidth_signed format components true).symm
    have setUps := FrameFormat.setUp_of_unpackers
      ({ format with signed := true }.ofDepth depth model) (format.ofComponents signed) rfl rfl rfl
      wide (FrameFormat.unpacker_described_signed known format sink)
    exact FrameFormat.decode_of_alike setUps rfl source stop

/-- A gray pixel of eight bits, which is unpacked, and once more when it has a sign. -/
theorem descriptions_agree_grayByte :
    let image : PixelBuffer := ⟨1, 1, .luma, #[0], 0⟩
    let ops : List UnpackOp := [.consumeRow 0 #[0x80], .setSigned true, .consumeRow 0 #[0x80]]
    Component.ofDepth? 8 .gray = some [{ depth := 8 }]
      ∧ UnpackOp.trace ops <$> Unpacker.ofDepth 1 8 .gray none image
        = UnpackOp.trace ops <$> Unpacker.ofComponents 1 [{ depth := 8 }] image :=
  ⟨rfl, ((descriptions_agree rfl).2.1 PixelBuffer 1 none _ _).1⟩

end WpgRaster
