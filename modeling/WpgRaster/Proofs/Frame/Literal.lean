import WpgRaster.Proofs.Frame.Outcome
import WpgRaster.Proofs.Row.Packing
import WpgRaster.Proofs.Source.Supply

/-!
# Literal data

Bytes can be stored without compression, or as literal runs of either
generation, split anywhere (`Compression.Spells`). All of these rasters say
the same: the bytes are written one after another, and what is left over
once all rows are there is not looked at (`Compression.interpret_spells`).
So frames of the same bytes do not differ, whatever their compression, and
whether or not the row above is kept (`decode_spells_agree`).
-/

namespace WpgRaster

open RunLength (Interpreter Ending)

namespace Generation

/-- The bytes in the longest literal run that a code announces. A literal
run of the second generation is one of samples, which have one byte at
first. -/
def longestRun : Generation → Nat
  | first => 127
  | second => 125

/-- The code that announces a literal run of so many bytes. -/
def literalCode (count : Nat) : Generation → UInt8
  | first => count.toUInt8
  | second => (count - 1).toUInt8

/-- The raster that spells runs out, each behind its code. -/
def spell (generation : Generation) (runs : List (List UInt8)) : List UInt8 :=
  runs.flatMap fun run => generation.literalCode run.length :: run

/-- A raster of literal runs, none of them empty or too long, that make up
the bytes. -/
def SpellsRuns (generation : Generation) (bytes raster : List UInt8) : Prop :=
  ∃ runs : List (List UInt8),
    (∀ run ∈ runs, 1 ≤ run.length ∧ run.length ≤ generation.longestRun)
      ∧ runs.flatten = bytes ∧ raster = generation.spell runs

end Generation

/-- **A raster that spells bytes out**: as they are, or split into literal
runs. -/
def Compression.Spells (bytes raster : List UInt8) : Compression → Prop
  | .none => raster = bytes
  | .first => Generation.first.SpellsRuns bytes raster
  | .second => Generation.second.SpellsRuns bytes raster

/-! ## What literal runs say -/

namespace RunLength.Interpreter

variable {shape : Shape} {state : Interpreter}

/-- **A literal run is written as it is**, if samples have one byte. -/
theorem step_literalCode (single : state.register.size = 1) (generation : Generation)
    {run : List UInt8} (fits : 1 ≤ run.length ∧ run.length ≤ generation.longestRun)
    (rest : List UInt8) :
    state.step shape generation (generation.literalCode run.length) (run ++ rest)
      = .next { state with sheet := state.sheet.writeAll shape run } run.length := by
  have copied : state.copy shape run.length (run ++ rest)
      = .next { state with sheet := state.sheet.writeAll shape run } run.length := by
    unfold copy emit
    rw [if_pos (by simp), List.take_left]
  rw [← copied]
  cases generation with
  | first =>
    have most : run.length ≤ 127 := fits.2
    have code : run.length.toUInt8.toNat = run.length := Nat.mod_eq_of_lt (by omega)
    have announced : run.length.toUInt8.toNat % 0x80 = run.length := by omega
    show state.stepFirst shape run.length.toUInt8 _ = _
    rw [stepFirst_literal (by omega), announced]
  | second =>
    have most : run.length ≤ 125 := fits.2
    have code : (run.length - 1).toUInt8.toNat = run.length - 1 := Nat.mod_eq_of_lt (by omega)
    have announced : 1 * ((run.length - 1).toUInt8.toNat % 0x80 + 1) = run.length := by omega
    show state.stepSecond shape (run.length - 1).toUInt8 _ = _
    unfold stepSecond
    dsimp only
    rw [if_pos (by omega), single, announced]

/-- **Literal runs are written one after another.** -/
theorem interpret_spell (single : state.register.size = 1) (generation : Generation)
    {runs : List (List UInt8)}
    (fits : ∀ run ∈ runs, 1 ≤ run.length ∧ run.length ≤ generation.longestRun) :
    state.interpret shape generation (generation.spell runs)
      = (state.sheet.writeAll shape runs.flatten,
          if (state.sheet.writeAll shape runs.flatten).IsComplete shape then .full
          else .short) := by
  induction runs generalizing state with
  | nil =>
    show state.interpret shape generation [] = _
    rw [interpret]
    rfl
  | cons run runs ih =>
    have first := fits run List.mem_cons_self
    have spelled : generation.spell (run :: runs)
        = generation.literalCode run.length :: (run ++ generation.spell runs) := rfl
    rw [List.flatten_cons, Sheet.writeAll_append]
    by_cases full : state.sheet.IsComplete shape
    · -- there is no room for the run, nor for the others
      rw [interpret_of_isComplete full, Sheet.writeAll_of_isComplete full,
        Sheet.writeAll_of_isComplete full, if_pos full]
    · rw [spelled, interpret_cons full, step_literalCode single generation first]
      dsimp only
      rw [List.drop_left]
      refine ih ?_ fun run among => fits run (List.mem_cons_of_mem _ among)
      exact single

end RunLength.Interpreter

/-- **A raster that spells bytes out writes them**, and ends when they do. -/
theorem Compression.interpret_spells {shape : Shape} (wide : 0 < shape.width)
    {bytes raster : List UInt8} {compression : Compression}
    (spells : compression.Spells bytes raster) :
    compression.interpret shape raster
      = (Sheet.ofBytes shape bytes,
          if bytes.length < shape.rows * shape.width then .short else .full) := by
  have complete := Sheet.isComplete_ofBytes_iff wide bytes
  have runs : ∀ {generation : Generation}, generation.SpellsRuns bytes raster →
      Interpreter.interpret shape generation {} raster
        = (Sheet.ofBytes shape bytes,
            if bytes.length < shape.rows * shape.width then .short else .full) := by
    rintro generation ⟨runs, fits, rfl, rfl⟩
    refine (Interpreter.interpret_spell rfl generation fits).trans (Prod.ext rfl ?_)
    show (if (Sheet.ofBytes shape runs.flatten).IsComplete shape then _ else _) = _
    by_cases short : runs.flatten.length < shape.rows * shape.width
    · rw [if_pos short, if_neg fun full => absurd (complete.mp full) (Nat.not_le.mpr short)]
    · rw [if_neg short, if_pos (complete.mpr (Nat.le_of_not_lt short))]
  cases compression with
  | none =>
    obtain rfl : raster = bytes := spells
    rfl
  | first => exact runs spells
  | second => exact runs spells

/-! ## Setting up frames of another compression -/

/-- **Checks that pass together**: if the first passes, then so does the
second, with a value that is related. -/
def Passes {ε α β : Type} (rel : α → β → Prop) (first : Except ε α)
    (second : Except ε β) : Prop :=
  ∀ a, first = .ok a → ∃ b, second = .ok b ∧ rel a b

namespace Passes

variable {ε α β γ : Type} {rel : α → β → Prop}

/-- A check that both have in common. -/
theorem bind {check : Except ε γ} {next : γ → Except ε α} {next' : γ → Except ε β}
    (rest : ∀ c, Passes rel (next c) (next' c)) :
    Passes rel (check >>= next) (check >>= next') := by
  intro a passed
  cases check with
  | ok c => exact rest c a passed
  | error err => cases passed

/-- A guard that both have in common. -/
theorem guard {failed : Prop} [Decidable failed] {err : ε} {next : PUnit → Except ε α}
    {next' : PUnit → Except ε β} (rest : Passes rel (next ()) (next' ())) :
    Passes rel (if failed then throw err >>= next else next ())
      (if failed then throw err >>= next' else next' ()) := by
  by_cases wrong : failed
  · rw [if_pos wrong]
    intro a passed
    cases passed
  · rw [if_neg wrong, if_neg wrong]
    exact rest

end Passes

namespace FrameFormat

variable {κ : Type} [RowSink κ] {sink : κ}

/-- The format with its rows stored in another way. -/
def recode (format : FrameFormat) (compression : Compression) (paired : Bool) : FrameFormat :=
  { format with compression, paired }

/-- **How rows are stored does not matter** for how they are unpacked. -/
theorem setUp_recode (format : FrameFormat) (compression : Compression) (paired : Bool) :
    Passes (fun rows rows' => rows'.consumer = rows.consumer) (format.setUp sink)
      ((format.recode compression paired).setUp sink) := by
  -- a row in progress is as long with one buffer as with two
  have last : ∀ width (unpacker : Unpacker κ),
      Passes (fun rows rows' : RowState (Unpacker κ) => rows'.consumer = rows.consumer)
        (do
          let assembler ← RowAssembler.make width format.rows format.paired
          return { assembler, consumer := unpacker } : Except RasterError _)
        (do
          let assembler ← RowAssembler.make width format.rows paired
          return { assembler, consumer := unpacker } : Except RasterError _) := by
    intro width unpacker rows passed
    unfold RowAssembler.make at passed ⊢
    by_cases none : width = 0
    · rw [if_pos none] at passed
      cases passed
    by_cases there : Size.allocatable width
    · rw [if_neg none, if_pos there] at passed ⊢
      cases passed
      exact ⟨_, rfl, rfl⟩
    · rw [if_neg none, if_neg there] at passed
      cases passed
  unfold setUp recode
  refine .guard (.guard (.bind fun width => ?_))
  cases format.components with
  | some components => exact .bind fun unpacker => last width _
  | none => exact .bind fun unpacker => last width _

/-! ## Frames of the same bytes -/

variable {format : FrameFormat} {rows : RowState (Unpacker κ)} {stop stop' : Stop}

/-- The outcome of a frame of so many bytes: complete, if there are enough
of them, and otherwise truncated behind the last row that is whole. -/
def literalOutcome (format : FrameFormat) (width length : Nat) : Outcome :=
  if length < format.rows * width then .truncated (length / width) else .complete

/-- **A frame of literal data** hands the bytes over, cut into rows. -/
theorem decode_spells (ready : format.setUp sink = .ok rows)
    (accepts : Accepts rows.consumer format.rows) (silent : stop.Silent)
    {bytes : List UInt8} {cursor : Cursor}
    (spells : format.compression.Spells bytes cursor.rest) :
    let width := rows.assembler.width
    let decoded := format.decode cursor sink stop
    decoded.result = .ok (format.literalOutcome width bytes.length)
      ∧ ∃ unpacker, Handed rows.consumer (cutRows width format.rows bytes) unpacker
        ∧ decoded.sink = unpacker.sink ∧ decoded.clamped = unpacker.clamped := by
  have setUp := (format.setUp_yields sink).of_ok ready
  have wide : 0 < rows.assembler.shape.width := setUp.holds.column
  have height : rows.assembler.shape.rows = format.rows := setUp.rows_eq
  have width : rows.assembler.shape.width = rows.assembler.width := rfl
  obtain ⟨result, painted⟩ := decode_interprets ready accepts silent cursor
  rw [Compression.interpret_spells wide spells] at result painted
  dsimp only at result painted ⊢
  rw [Sheet.frame_ofBytes wide, height, width] at painted
  refine ⟨result.trans ?_, painted⟩
  rw [height, width]
  unfold literalOutcome
  by_cases short : bytes.length < format.rows * rows.assembler.width
  · have all := Sheet.bytes_ofBytes wide bytes
    rw [List.take_of_length_le (by rw [height, width]; omega)] at all
    rw [if_pos short, if_pos short, (Sheet.Plain.ofBytes wide bytes).length_completed, all]
    rfl
  · rw [if_neg short, if_neg short]
    rfl

/-- **A format and a sink that read literal data alike**: two rasters that
spell the same bytes out, each in its own compression and with one buffer
or two, make frames with the same outcome, the same sink and as many
clamped indices. Which outcome it is, the number of bytes tells. -/
def ReadsLiterals (format : FrameFormat) (sink : κ) : Prop :=
  ∀ {σ σ' : Type} [ByteSource σ] [ByteSource σ'] {source : σ} {source' : σ'}
    {bytes raster raster' : List UInt8} {compression compression' : Compression}
    (paired paired' : Bool) {stop stop' : Stop},
    compression.Spells bytes raster → compression'.Spells bytes raster' →
    Supplies source raster → Supplies source' raster' → stop.Silent → stop'.Silent →
    let decoded := (format.recode compression paired).decode source sink stop
    let decoded' := (format.recode compression' paired').decode source' sink stop'
    decoded.result = decoded'.result ∧ decoded.sink = decoded'.sink
      ∧ decoded.clamped = decoded'.clamped
      ∧ ∃ width, format.rowByteWidth = .ok width
        ∧ decoded.result = .ok (format.literalOutcome width bytes.length)

/-- Each of the two frames hands over the rows that its bytes are cut
into, so they cannot differ. -/
theorem readsLiterals_of_accepts (ready : format.setUp sink = .ok rows)
    (accepts : Accepts rows.consumer format.rows) : format.ReadsLiterals sink := by
  have width := ((format.setUp_yields sink).of_ok ready).width
  have alone : ∀ {σ : Type} [ByteSource σ] {source : σ} {bytes raster : List UInt8}
      {compression : Compression} (paired : Bool) {stop : Stop},
      compression.Spells bytes raster → Supplies source raster → stop.Silent →
      let decoded := (format.recode compression paired).decode source sink stop
      decoded.result = .ok (format.literalOutcome rows.assembler.width bytes.length)
        ∧ ∃ unpacker,
          Handed rows.consumer (cutRows rows.assembler.width format.rows bytes) unpacker
          ∧ decoded.sink = unpacker.sink ∧ decoded.clamped = unpacker.clamped := by
    intro σ _ source bytes raster compression paired stop spells supplies silent
    obtain ⟨rows', ready', same⟩ := format.setUp_recode compression paired rows ready
    have width' := (((format.recode compression paired).setUp_yields sink).of_ok ready').width
    have wide : rows'.assembler.width = rows.assembler.width :=
      Except.ok.inj (width'.symm.trans width)
    obtain ⟨cursor, rest, result, written, -, clamped⟩ :=
      supplies.decode_eq (format.recode compression paired) sink stop
    have spelled : compression.Spells bytes cursor.rest := by rwa [rest]
    have alike := decode_spells ready' (by rwa [same]) silent spelled
    dsimp only at alike ⊢
    rw [wide, same] at alike
    rw [result, written, clamped]
    exact alike
  intro σ σ' _ _ source source' bytes raster raster' compression compression' paired paired' stop
    stop' spells spells' supplies supplies' silent silent'
  obtain ⟨result, unpacker, handed, written, clamped⟩ := alone paired spells supplies silent
  obtain ⟨result', unpacker', handed', written', clamped'⟩ :=
    alone paired' spells' supplies' silent'
  obtain rfl := handed.unique handed'
  exact ⟨result.trans result'.symm, written.trans written'.symm, clamped.trans clamped'.symm, _,
    width, result⟩

/-- **All compressions agree on literal data**, for every sink that accepts
the rows of the frame, and therefore for every image that a frame can be
set up for. -/
theorem decode_spells_agree :
    (∀ {κ : Type} [RowSink κ] {format : FrameFormat} {sink : κ} {rows : RowState (Unpacker κ)},
        format.setUp sink = .ok rows → Accepts rows.consumer format.rows →
        format.ReadsLiterals sink)
    ∧ ∀ {format : FrameFormat} {image : PixelBuffer} {rows : RowState (Unpacker PixelBuffer)},
        format.setUp image = .ok rows → format.ReadsLiterals image := by
  refine ⟨readsLiterals_of_accepts, fun {format image rows} ready => ?_⟩
  exact readsLiterals_of_accepts ready ((format.setUp_yields image).of_ok ready).accepts

/-- Three bytes for an image of one row of two: as they are, and in two
literal runs, of which the second goes on behind the row. -/
theorem decode_spells_agree_pair :
    let bytes := [1, 2, 3]
    let first := [0x01, 1, 0x02, 2, 3]
    let second := [0x00, 1, 0x01, 2, 3]
    Compression.none.Spells bytes bytes ∧ Compression.first.Spells bytes first
      ∧ Compression.second.Spells bytes second ∧ Stop.never.Silent
      ∧ (∃ rows, pair.setUp pairImage = .ok rows ∧ Accepts rows.consumer pair.rows)
      ∧ let source : List UInt8 → Cursor := fun raster => .ofBytes raster.toArray
        let packed := (pair.recode .none false).decode (source bytes) pairImage .never
        let run := (pair.recode .first false).decode (source first) pairImage .never
        let samples := (pair.recode .second true).decode (source second) pairImage .never
        (packed.result = run.result ∧ packed.sink = run.sink ∧ packed.clamped = run.clamped
          ∧ ∃ width, pair.rowByteWidth = .ok width
            ∧ packed.result = .ok (pair.literalOutcome width bytes.length))
        ∧ (run.result = samples.result ∧ run.sink = samples.sink ∧ run.clamped = samples.clamped
          ∧ ∃ width, pair.rowByteWidth = .ok width
            ∧ run.result = .ok (pair.literalOutcome width bytes.length)) := by
  have accepts := ((pair.setUp_yields pairImage).of_ok rfl).accepts
  have silent : Stop.never.Silent := fun _ => rfl
  have packed : Compression.none.Spells [1, 2, 3] [1, 2, 3] := rfl
  have run : Compression.first.Spells [1, 2, 3] [0x01, 1, 0x02, 2, 3] :=
    ⟨[[1], [2, 3]], by decide, rfl, rfl⟩
  have samples : Compression.second.Spells [1, 2, 3] [0x00, 1, 0x01, 2, 3] :=
    ⟨[[1], [2, 3]], by decide, rfl, rfl⟩
  refine ⟨packed, run, samples, silent, ⟨_, rfl, accepts⟩, ?_, ?_⟩
  · exact decode_spells_agree.1 rfl accepts false false packed run (Cursor.supplies _)
      (Cursor.supplies _) silent silent
  · exact decode_spells_agree.2 rfl false true run samples (Cursor.supplies _)
      (Cursor.supplies _) silent silent

end FrameFormat

end WpgRaster
