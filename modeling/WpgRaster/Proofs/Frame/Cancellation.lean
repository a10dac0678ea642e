import WpgRaster.Proofs.Frame.Interruption
import WpgRaster.Proofs.Pixel.Buffer
import WpgRaster.Proofs.Pixel.Image
import WpgRaster.Source.ByteStream
import WpgRaster.Source.FaultyCursor

/-!
# Cancellation

A frame that is stopped is the beginning of the frame that nobody stops,
and black below (`decode_of_fires`). How many rows there are, the questions
to the stop tell. There is one before the first row, and then one after
every packed row (`Session.PacedRows`), or after every token that completed
a row (`Session.PacedRuns`).
-/

namespace WpgRaster

/-! ## Packed rows of sources -/

/-- **A source that delivers no more than it is asked for.** -/
def ReadsWithin (σ : Type) [ByteSource σ] : Prop :=
  ∀ limit (source : σ) bytes source',
    ByteSource.takeUpTo limit source = .ok bytes source' → bytes.size ≤ limit

theorem Cursor.readsWithin : ReadsWithin Cursor := by
  intro limit source bytes source' taken
  cases taken
  rw [Cursor.size_peek]
  exact Nat.min_le_left _ _

theorem ByteStream.readsWithin : ReadsWithin ByteStream := by
  intro limit source bytes source' taken
  cases taken
  rw [Cursor.size_peek]
  exact Nat.min_le_left _ _

theorem FaultyCursor.readsWithin : ReadsWithin FaultyCursor := by
  intro limit source bytes source' taken
  change FaultyCursor.takeUpTo limit source = _ at taken
  unfold FaultyCursor.takeUpTo onCursor at taken
  have quota : source.quota limit ≤ limit := by
    unfold FaultyCursor.quota
    cases source.chunk <;> cases source.brokenFrom <;> simp only [Option.map, Option.getD] <;> omega
  split at taken
  · cases taken
  · cases taken
    rw [Cursor.size_peek]
    exact Nat.le_trans (Nat.min_le_left _ _) quota

/-- A packed row is as long as it should be, or shorter. -/
theorem FrameFormat.size_gather {σ : Type} [ByteSource σ] (within : ReadsWithin σ)
    (fuel need : Nat) {bytes all : Bytes} {source source' : σ}
    (gathered : gather fuel need bytes source = .ok all source') :
    all.size ≤ bytes.size + need := by
  induction fuel generalizing need bytes source with
  | zero =>
    cases gathered
    exact Nat.le_add_right _ _
  | succ fuel ih =>
    unfold gather at gathered
    by_cases none : need = 0
    · rw [if_pos none] at gathered
      cases gathered
      exact Nat.le_add_right _ _
    rw [if_neg none] at gathered
    cases taken : ByteSource.takeUpTo need source with
    | error err mid =>
      rw [bind_of_error taken] at gathered
      cases gathered
    | ok chunk mid =>
      have few := within need source chunk mid taken
      rw [bind_of_ok taken] at gathered
      split at gathered
      · cases gathered
        exact Nat.le_add_right _ _
      · have size := ih _ gathered
        rw [Array.size_append] at size
        omega

theorem FrameFormat.size_nextRow {σ : Type} [ByteSource σ] (within : ReadsWithin σ) {width : Nat}
    {row : Bytes} {source source' : σ} (read : nextRow width source = .ok row source') :
    row.size ≤ width := by
  unfold nextRow EStateM.adaptExcept at read
  cases gathered : gather width width #[] source with
  | ok bytes mid =>
    rw [gathered] at read
    cases read
    simpa using size_gather within _ _ gathered
  | error err mid =>
    rw [gathered] at read
    cases read

section

variable {κ : Type} [RowConsumer κ]

namespace RowAssembler

/-- A byte that is appended is stored, and completes the row if it is the
last one. -/
theorem append_ok {byte : UInt8} {state state' : RowState κ}
    (appended : append byte state = .ok () state') :
    state'.assembler = if state.assembler.column + 1 = state.assembler.width
      then (state.assembler.store byte).nextRow else state.assembler.store byte := by
  obtain ⟨asm, consumer⟩ := state
  have column : (asm.store byte).column = asm.column + 1 := rfl
  have width : (asm.store byte).width = asm.width := rfl
  unfold append at appended
  dsimp only at appended ⊢
  split at appended
  · cases appended
  split at appended
  · cases appended
  rw [column, width] at appended
  by_cases last : asm.column + 1 = asm.width
  · rw [if_pos last] at appended ⊢
    unfold commit at appended
    dsimp only at appended
    split at appended
    · cases appended
      rfl
    · cases appended
  · rw [if_neg last] at appended ⊢
    cases appended
    rfl

/-- **The bytes that a row lacks complete it**, and no other. -/
theorem appendAll_row {bytes : List UInt8} {state state' : RowState κ}
    (some : bytes ≠ [])
    (lacking : state.assembler.column + bytes.length = state.assembler.width)
    (appended : appendAll bytes state = .ok () state') :
    state'.assembler.row = state.assembler.row + 1 ∧ state'.assembler.column = 0
      ∧ state'.assembler.width = state.assembler.width := by
  induction bytes generalizing state with
  | nil => exact absurd rfl some
  | cons byte rest ih =>
    unfold appendAll at appended
    rw [List.length_cons] at lacking
    cases first : append byte state with
    | error err mid =>
      rw [bind_of_error first] at appended
      cases appended
    | ok _ mid =>
      have stored := append_ok first
      rw [bind_of_ok first] at appended
      by_cases last : state.assembler.column + 1 = state.assembler.width
      · obtain rfl : rest = [] := List.eq_nil_of_length_eq_zero (by omega)
        rw [if_pos last] at stored
        cases appended
        rw [stored]
        exact ⟨rfl, rfl, rfl⟩
      · rw [if_neg last] at stored
        have column : mid.assembler.column = state.assembler.column + 1 := by rw [stored]; rfl
        have row : mid.assembler.row = state.assembler.row := by rw [stored]; rfl
        have width : mid.assembler.width = state.assembler.width := by rw [stored]; rfl
        have more : rest ≠ [] := fun none => last (by rw [none] at lacking; exact lacking)
        obtain ⟨row', column', width'⟩ := ih more (by omega) appended
        exact ⟨by omega, column', by omega⟩

end RowAssembler

end

namespace Session

variable {σ κ α : Type} {session mid : Session σ κ} {a : α}

/-- What a step on the source did that went well. -/
theorem onSource_ok {step : EStateM RasterError σ α} (ran : onSource step session = .ok a mid) :
    ∃ source, step session.source = .ok a source ∧ mid = { session with source } := by
  rw [onSource_eq] at ran
  split at ran
  · next source run =>
    cases ran
    exact ⟨source, run, rfl⟩
  · cases ran

/-- What a step on the rows did that went well. -/
theorem onRows_ok {op : RowM κ α} (ran : onRows op session = .ok a mid) :
    ∃ rows, op session.rows = .ok a rows ∧ mid = { session with rows } := by
  rw [onRows_eq] at ran
  split at ran
  · next rows run =>
    cases ran
    exact ⟨rows, run, rfl⟩
  · cases ran

end Session

section

variable {σ κ : Type} [RowConsumer κ] {start : κ} {count : Nat} {reason : StopReason}

/-! ## Compressed rows -/

/-- **The pace of tokens**: every question but the first was asked behind a
row, or several. -/
structure Session.PacedRuns (session : Session σ κ) : Prop where
  /-- There was a first question. -/
  asked : 1 ≤ session.stop.checks
  /-- There are as many rows as there were others. -/
  checks : session.stop.checks ≤ session.rows.assembler.row + 1
  /-- Without others there is no row. -/
  first : session.stop.checks = 1 → session.rows.assembler.row = 0

namespace RunLength

variable [ByteSource σ] (steadfast : Steadfast κ)

include steadfast

variable {session session' : Session σ κ}

/-- **A token asks the stop at most once**, and only behind a row. -/
theorem step_interrupted (abreast : Abreast start count reason session session')
    (paced : session.PacedRuns) (generation : Generation) (reg : SampleRegister) :
    Interrupted start count reason Session.PacedRuns Session.PacedRuns (step generation reg session)
      (step generation reg session') := by
  unfold step
  rw [bind_of_ok session.assembler_eq, bind_of_ok session'.assembler_eq, ← abreast.rows]
  refine .of_quiet abreast (.onSource _) fun (token, reg) mid mid' _ abreast' stop moved => ?_
  refine .of_quiet abreast' (perform_quiet steadfast token reg)
    fun reg last last' _ abreast'' stop' moved' => ?_
  obtain ⟨rows, handed, counted⟩ := abreast.counted
  have forward := (moved.trans moved').row_le handed counted
  have checks : last.stop.checks = session.stop.checks := by rw [stop', stop]
  obtain ⟨asked, few, first⟩ := paced
  rw [bind_of_ok last.assembler_eq, bind_of_ok last'.assembler_eq, ← abreast''.rows]
  by_cases same : last.rows.assembler.row = session.rows.assembler.row
  · rw [if_neg (not_not_intro same)]
    exact .ok abreast'' ⟨by omega, by omega, by omega⟩
  · rw [if_pos same]
    have paced : ({ last with stop := { last.stop with checks := last.stop.checks + 1 } } :
        Session σ κ).PacedRuns := by
      refine ⟨Nat.succ_pos _, ?_, ?_⟩
      · show last.stop.checks + 1 ≤ last.rows.assembler.row + 1
        omega
      · show last.stop.checks + 1 = 1 → last.rows.assembler.row = 0
        omega
    exact (abreast''.checkStop paced).bind (fun _ _ _ => .ok) fun _ => .of_quiet (.pure reg)

/-- **Tokens are carried out abreast** until the stop fires. -/
theorem run_interrupted (abreast : Abreast start count reason session session')
    (paced : session.PacedRuns) (generation : Generation) (fuel : Nat) (reg : SampleRegister) :
    Interrupted start count reason Session.PacedRuns Session.PacedRuns
      (run generation fuel reg session) (run generation fuel reg session') := by
  induction fuel generalizing session session' reg with
  | zero => exact .error abreast
  | succ fuel ih =>
    unfold run
    rw [bind_of_ok session.assembler_eq, bind_of_ok session'.assembler_eq, ← abreast.rows]
    split
    · exact .ok abreast paced
    · exact (step_interrupted steadfast abreast paced generation reg).bind
        (fun reg _ _ abreast' paced' => ih abreast' paced' reg)
        ((Session.Course.rows start).run steadfast generation fuel)

end RunLength

/-! ## Packed rows -/

/-- **The pace of packed rows**: every question but the first was asked
behind one row. -/
structure Session.PacedRows (width : Nat) (session : Session σ κ) : Prop where
  /-- There is one question more than there are rows. -/
  checks : session.stop.checks = session.rows.assembler.row + 1
  /-- The next row is not begun. -/
  column : session.rows.assembler.column = 0
  /-- Rows have the width. -/
  width : session.rows.assembler.width = width

namespace FrameFormat

variable [ByteSource σ] (steadfast : Steadfast κ)

include steadfast

variable {session session' : Session σ κ}

/-- **Packed rows are read abreast** until the stop fires. -/
theorem decodePacked_interrupted (within : ReadsWithin σ)
    (abreast : Abreast start count reason session session') {width : Nat} (wide : 0 < width)
    (paced : session.PacedRows width) (left : Nat) :
    Interrupted start count reason (Session.PacedRows width) (Session.PacedRows width)
      (decodePacked width left session)
      (decodePacked width left session') := by
  induction left generalizing session session' with
  | zero => exact .ok abreast paced
  | succ left ih =>
    refine .of_quiet abreast (.onSource _) fun bytes mid mid' read abreast' stop moved => ?_
    refine .of_quiet abreast' (.onRows (RowAssembler.appendAll_moves steadfast bytes.toList))
      fun _ last last' written abreast'' stop' moved' => ?_
    by_cases short : bytes.size < width
    · rw [if_pos short]
      exact .error abreast''
    rw [if_neg short]
    -- a whole row was appended where none was begun
    obtain ⟨source, gathered, rfl⟩ := Session.onSource_ok read
    obtain ⟨rows, appended, rfl⟩ := Session.onRows_ok written
    have size := size_nextRow within gathered
    have column := paced.column
    have made := paced.width
    have some : bytes.toList ≠ [] := by
      intro none
      rw [← Array.length_toList, none] at short
      exact short wide
    have lacking : session.rows.assembler.column + bytes.toList.length
        = session.rows.assembler.width := by
      rw [Array.length_toList]
      omega
    obtain ⟨row, column', width'⟩ := RowAssembler.appendAll_row some lacking appended
    refine (abreast''.checkStop ⟨?_, column', width'.trans made⟩).bind
      (fun _ _ _ abreast paced => ih abreast paced)
      fun _ => (Session.Course.rows start).decodePacked steadfast width left
    show session.stop.checks + 1 = rows.assembler.row + 1
    rw [row, paced.checks]

/-! ## Frames -/

/-- The pace of a compression. -/
def Paced (compression : Compression) (width : Nat) (session : Session σ κ) : Prop :=
  match compression with
  | .none => session.PacedRows width
  | .first | .second => session.PacedRuns

omit [RowConsumer κ] [ByteSource σ] steadfast in
/-- The questions tell the number of rows of a session that was stopped. -/
theorem Paced.rows {compression : Compression} {width : Nat}
    (paced : Paced compression width session) (checks : session.stop.checks = count + 1) :
    count ≤ session.rows.assembler.row
      ∧ (compression = .none → session.rows.assembler.row = count)
      ∧ (count = 0 → session.rows.assembler.row = 0) := by
  have runs : session.PacedRuns → count ≤ session.rows.assembler.row
      ∧ (count = 0 → session.rows.assembler.row = 0) := by
    rintro ⟨-, few, first⟩
    exact ⟨by omega, fun none => first (by omega)⟩
  cases compression with
  | none =>
    have few := Session.PacedRows.checks paced
    exact ⟨by omega, fun _ => by omega, fun _ => by omega⟩
  | first => exact ⟨(runs paced).1, nofun, (runs paced).2⟩
  | second => exact ⟨(runs paced).1, nofun, (runs paced).2⟩

/-- **All rows are read abreast** until the stop fires. -/
theorem decodeRows_interrupted (within : ReadsWithin σ)
    (abreast : Abreast start count reason session session') {width : Nat} (wide : 0 < width)
    (compression : Compression) (paced : Paced compression width session) :
    Interrupted start count reason (Paced compression width) (Paced compression width)
      (decodeRows compression session) (decodeRows compression session') := by
  have runs : ∀ generation, session.PacedRuns →
      Interrupted start count reason Session.PacedRuns Session.PacedRuns
        (RunLength.decode generation session) (RunLength.decode generation session') := by
    intro generation paced
    have ran : ∀ session : Session σ κ, RunLength.decode generation session
        = RunLength.run generation (ByteSource.size session.source + 1) {} session :=
      fun session => rfl
    rw [ran, ran, ← abreast.source]
    exact RunLength.run_interrupted steadfast abreast paced generation _ {}
  cases compression with
  | none =>
    show Interrupted start count reason (Session.PacedRows width) (Session.PacedRows width)
      ((Session.assembler >>= fun asm => decodePacked asm.width (asm.rows - asm.row)) session)
      ((Session.assembler >>= fun asm => decodePacked asm.width (asm.rows - asm.row)) session')
    rw [bind_of_ok session.assembler_eq, bind_of_ok session'.assembler_eq, ← abreast.rows,
      Session.PacedRows.width paced]
    exact decodePacked_interrupted steadfast within abreast wide paced _
  | first => exact runs .first paced
  | second => exact runs .second paced

/-- **A frame is decoded abreast** until the stop fires. -/
theorem decodeSession_interrupted (within : ReadsWithin σ)
    (abreast : Abreast start count reason session session') {width : Nat} (wide : 0 < width)
    (compression : Compression) (paced : Paced compression width session) :
    Interrupted start count reason (Paced compression width) (fun _ => True)
      (decodeSession compression session) (decodeSession compression session') := by
  have ended : ∀ (outcome : Except RasterError Unit) {mid mid' : Session σ κ},
      decodeRows compression session = conclude outcome mid →
      decodeRows compression session' = conclude outcome mid' →
      Abreast start count reason mid mid' →
      Interrupted start count reason (Paced compression width) (fun _ => True)
        (decodeSession compression session) (decodeSession compression session') := by
    intro outcome mid mid' ran ran' abreast'
    obtain ⟨outcome', last, last', run, run', abreast'', -⟩ := abreast'.quiet
      (endRows_quiet steadfast mid.rows.assembler.row outcome)
    rw [decodeSession_eq ran, decodeSession_eq ran', ← abreast'.rows, run, run']
    cases outcome' with
    | ok outcome => exact .ok abreast'' trivial
    | error err => exact .error abreast''
  have rows := decodeRows_interrupted steadfast within abreast wide compression paced
  have beyond : Advances start (behind (decodeRows compression session')).rows
      (behind (decodeSession compression session')).rows :=
    (Session.Course.rows start).endRows steadfast compression session'
  generalize ran : decodeRows compression session = result,
    ran' : decodeRows compression session' = result' at rows beyond
  cases rows with
  | @ok a _ _ abreast' _ => exact ended (.ok a) ran ran' abreast'
  | @error err _ _ abreast' => exact ended (.error err) ran ran' abreast'
  | @stopped mid _ left =>
    have stopped : decodeSession compression session = .error (.stopped reason) mid :=
      (decodeSession_of_error ran nofun nofun).trans (if_neg nofun)
    rw [stopped]
    exact .stopped ⟨left.checks, left.paced, left.counted, left.passed.trans beyond⟩

/-- **A whole frame is decoded abreast**: the first question is asked before
the first row. -/
theorem checkedSession_interrupted (within : ReadsWithin σ)
    (abreast : Abreast start count reason session session')
    (unasked : session.stop.checks = 0) (none : session.rows.assembler.row = 0)
    (fresh : session.rows.assembler.column = 0) (wide : 0 < session.rows.assembler.width)
    (compression : Compression) :
    Interrupted start count reason (Paced compression session.rows.assembler.width)
      (fun _ => True)
      (checkedSession compression session) (checkedSession compression session') := by
  have paced : Paced compression session.rows.assembler.width
      { session with stop := { session.stop with checks := session.stop.checks + 1 } } := by
    have asked : session.stop.checks + 1 = session.rows.assembler.row + 1 := by rw [unasked, none]
    have runs : ({ session with stop := { session.stop with checks := session.stop.checks + 1 } } :
        Session σ κ).PacedRuns := ⟨Nat.succ_pos _, Nat.le_of_eq asked, fun _ => none⟩
    cases compression with
    | none => exact ⟨asked, fresh, rfl⟩
    | first => exact runs
    | second => exact runs
  exact (abreast.checkStop paced).bind
    (fun _ _ _ abreast' paced' =>
      decodeSession_interrupted steadfast within abreast' wide compression paced')
    fun _ => (Session.Course.rows start).decodeSession steadfast compression

end FrameFormat

end

/-! ## Images -/

namespace FrameFormat

variable {σ : Type} [ByteSource σ] {format : FrameFormat} {image : PixelBuffer}
  {rows : RowState (Unpacker PixelBuffer)} {stop never : Stop} {count : Nat} {reason : StopReason}

/-- **An image of which the decoding was stopped**: it has the first rows of
the image that is decoded without a stop, and is black below. The questions
to the stop tell how many these are. -/
structure CutOff (compression : Compression) (count : Nat) (image whole : PixelBuffer) : Prop where
  /-- Its rows are the first rows of the other image. -/
  top : image.top image.rowsCommitted = whole.top image.rowsCommitted
  /-- There is nothing else. -/
  below : ∀ sample ∈ image.below image.rowsCommitted, sample = 0
  /-- There is a row for every question that passed. -/
  rows : count ≤ image.rowsCommitted
  /-- There are no others if rows are packed. -/
  packed : compression = .none → image.rowsCommitted = count
  /-- There are none if no question passed. -/
  none : count = 0 → image.rowsCommitted = 0

/-- **Cancellation leaves a clean prefix.** A frame is decoded into a new
image, once with a stop that lets `count` questions pass and not the next
one, and once with a stop that never fires. Either the stop let all
questions pass, and there is no difference; or the frame ends with the
reason of the stop, which was asked once more, and its image is cut
off. -/
theorem decode_of_fires (within : ReadsWithin σ) {width height : Nat} {space : ColorSpace}
    (made : PixelBuffer.make width height space = .ok image) (ready : format.setUp image = .ok rows)
    (fires : stop.Fires count reason) (unasked : stop.checks = 0) (silent : never.Silent)
    (source : σ) :
    let cut := format.decode source image stop
    let whole := format.decode source image never
    (cut.stop.checks ≤ count ∧ cut.result = whole.result ∧ cut.sink = whole.sink)
      ∨ (cut.result = .error (.stopped reason) ∧ cut.stop.checks = count + 1
        ∧ CutOff format.compression count cut.sink whole.sink) := by
  have setUp := (format.setUp_yields image).of_ok ready
  have holds := setUp.holds
  have row : rows.assembler.row = 0 := holds.row
  have abreast : Abreast rows.consumer count reason
      ({ source, rows, stop } : Session σ (Unpacker PixelBuffer)) { source, rows, stop := never } :=
    { source := rfl
      rows := rfl
      counted := ⟨[], .none, row⟩
      fires := fires
      early := by show stop.checks ≤ count; omega
      silent := silent }
  have frames := checkedSession_interrupted Unpacker.steadfast within abreast unasked row
    holds.column_eq holds.column format.compression
  rw [decode_of_ok ready, decode_of_ok ready]
  generalize checkedSession format.compression { source, rows, stop } = result,
    checkedSession format.compression { source, rows, stop := never } = result' at frames ⊢
  cases frames with
  | @ok _ session session' abreast' _ =>
    have same : session.rows.consumer.sink = session'.rows.consumer.sink := by rw [abreast'.rows]
    exact .inl ⟨abreast'.early, rfl, same⟩
  | @error _ session session' abreast' =>
    have same : session.rows.consumer.sink = session'.rows.consumer.sink := by rw [abreast'.rows]
    exact .inl ⟨abreast'.early, rfl, same⟩
  | @stopped session _ left =>
    refine .inr ⟨rfl, left.checks, ?_⟩
    obtain ⟨handedRows, handed, counted⟩ := left.counted
    obtain ⟨more, handed', -⟩ := left.passed handedRows handed counted
    obtain ⟨black, uncommitted⟩ := PixelBuffer.of_make made
    have painted := Unpacker.painted_of_handed handed
    have committed : session.rows.consumer.sink.rowsCommitted = handedRows.length := by
      rw [painted.committed, setUp.fits.sink_eq, uncommitted, Nat.zero_max]
    obtain ⟨many, packed, none⟩ := Paced.rows left.paced left.checks
    rw [counted, ← committed] at many packed none
    have last : ∀ session' : Session σ (Unpacker PixelBuffer), behind result' = session' →
        CutOff format.compression count session.rows.consumer.sink session'.rows.consumer.sink := by
      rintro _ rfl
      refine ⟨?_, ?_, many, packed, none⟩
      · rw [committed]
        exact Unpacker.top_of_handed handed handed' (List.prefix_append _ _)
      · intro sample among
        rw [committed, painted.below, setUp.fits.sink_eq] at among
        exact black sample (List.mem_of_mem_drop among)
    cases result' with
    | ok outcome session' => exact last session' rfl
    | error err session' => exact last session' rfl

set_option maxRecDepth 4000 in
/-- Of two packed rows, read byte by byte, the image has the first one if
the second question to the stop is not let pass. -/
theorem decode_of_fires_square :
    let format := { square with compression := .none }
    let source : FaultyCursor := { cursor := .ofBytes #[1, 2, 3, 4], chunk := some 1 }
    let stop := Stop.after 1 .timedOut
    ReadsWithin FaultyCursor ∧ PixelBuffer.make 2 2 .luma = .ok squareImage
      ∧ (∃ rows, format.setUp squareImage = .ok rows)
      ∧ stop.Fires 1 .timedOut ∧ stop.checks = 0 ∧ Stop.never.Silent
      ∧ let cut := format.decode source squareImage stop
        let whole := format.decode source squareImage .never
        ((cut.stop.checks ≤ 1 ∧ cut.result = whole.result ∧ cut.sink = whole.sink)
          ∨ (cut.result = .error (.stopped .timedOut) ∧ cut.stop.checks = 1 + 1
            ∧ CutOff format.compression 1 cut.sink whole.sink))
        ∧ cut.result = .error (.stopped .timedOut)
        ∧ cut.sink.pixels = #[0x0101, 0x0202, 0, 0] := by
  have within := FaultyCursor.readsWithin
  have made : PixelBuffer.make 2 2 .luma = .ok squareImage := rfl
  have fires := Stop.fires_after 1 .timedOut
  exact ⟨within, made, ⟨_, rfl⟩, fires, rfl, fun _ => rfl,
    decode_of_fires within made rfl fires rfl (fun _ => rfl) _, rfl, rfl⟩

end FrameFormat

end WpgRaster
