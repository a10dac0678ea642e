import WpgRaster.Proofs.Frame.Failures
import WpgRaster.Proofs.Frame.Simulation
import WpgRaster.Proofs.Row.Log

/-!
# The packed rows of a frame

What an image shows tells less than what its unpacker was handed: two packed rows may be
expanded to the same samples. To speak of the packed rows of a frame, its unpacker is given
a log, in which each row is entered that it takes (`Logged`). Decoding does not notice, so
the rows in the log are those of the frame itself (`FrameFormat.packedRows`).

Not all bytes of these rows need to come from the source. A frame that lacks some is filled
up with zeros, from the first byte on that was not written (`FrameFormat.writtenBytes`):
`FrameFormat.decode_packedRows` says what of the rows is written and what is filled up.
-/

namespace WpgRaster

/-! ## Rows that are brought to their end -/

/-- Before the first row, an assembler may be given another consumer. -/
theorem Holds.restart {κ κ' : Type} [RowConsumer κ] [RowConsumer κ'] {start : κ} {shape : Shape}
    {state : RowState κ} (holds : Holds start shape {} state) (start' : κ') :
    Holds start' shape {} ⟨state.assembler, start'⟩ where
  shape_eq := holds.shape_eq
  handed := .none
  row := holds.row
  delta := holds.delta
  size_current := holds.size_current
  size_previous := holds.size_previous
  toWithin := holds.toWithin
  column_eq := holds.column_eq
  stored := holds.stored
  above := holds.above

/-- **What is filled up is zero**: behind the bytes of a sheet that were written there is nothing
else in its rows. -/
theorem Sheet.byte_of_written_le {shape : Shape} {sheet : Sheet} {rows : List Bytes}
    (ended : rows = sheet.completed ∨ rows = sheet.frame shape) {y i : Nat} {row : Bytes}
    (there : rows[y]? = some row) (inside : i < shape.width)
    (written : sheet.completed.length * shape.width + sheet.current.length
      ≤ y * shape.width + i) :
    row[i]?.getD 0 = 0 := by
  -- all bytes of a complete row were written
  have below : sheet.completed.length ≤ y := by
    refine Nat.le_of_not_lt fun above => ?_
    have next : (y + 1) * shape.width ≤ sheet.completed.length * shape.width :=
      Nat.mul_le_mul_right _ above
    rw [Nat.succ_mul] at next
    omega
  obtain rfl | rfl := ended
  · rw [List.getElem?_eq_none below] at there
    cases there
  unfold frame at there
  rw [List.getElem?_take] at there
  split at there
  · rw [List.getElem?_append_right below] at there
    cases nth : y - sheet.completed.length with
    | zero =>
      -- of the row in progress, those that were written are in front
      rw [nth] at there
      cases there
      obtain rfl : y = sheet.completed.length := by omega
      have behind : sheet.current.length ≤ i := by omega
      unfold padded
      rw [List.getElem?_toArray, List.getElem?_append_right behind, List.getElem?_replicate]
      split <;> rfl
    | succ count =>
      rw [nth, List.getElem?_cons_succ, List.getElem?_replicate] at there
      split at there
      · cases there
        unfold blankRow
        rw [Array.getElem?_replicate]
        split <;> rfl
      · cases there
  · cases there

namespace FrameFormat

section

variable {σ κ : Type} [RowConsumer κ] {start : κ} {shape : Shape} {sheet : Sheet}

/-- Rows that were read come to their end as they are, or filled up. -/
theorem endRows_hands {mid : Session σ κ} (accepts : Accepts start shape.rows)
    (holds : Holds start shape sheet mid.rows) (rowsDecoded : Nat)
    (outcome : Except RasterError Unit) :
    ∃ rows, Handed start rows (behind (endRows rowsDecoded outcome mid)).rows.consumer
      ∧ (rows = sheet.completed ∨ rows = sheet.frame shape) := by
  obtain ⟨count, filled, filling, handed⟩ | ⟨err, filled, -, refused⟩ := holds.fillRemaining_lands
  · have fill : (Session.onRows RowAssembler.fillRemaining : SessionM σ κ Nat) mid
        = .ok count { mid with rows := filled } := by
      rw [Session.onRows_eq, filling]
    unfold endRows
    split
    · exact ⟨_, holds.handed, .inl rfl⟩
    · exact ⟨_, holds.handed, .inl rfl⟩
    · rw [bind_of_ok fill]
      exact ⟨_, handed, .inr rfl⟩
    · split
      · rw [bind_of_ok fill]
        exact ⟨_, handed, .inr rfl⟩
      · exact ⟨_, holds.handed, .inl rfl⟩
  · exact absurd refused accepts.not_refused

variable [ByteSource σ]

/-- **A frame is handed the rows that were read, as they are or filled up.** -/
theorem checkedSession_hands {session : Session σ κ} (accepts : Accepts start shape.rows)
    (holds : Holds start shape {} session.rows) (compression : Compression) :
    ∃ sheet rows, Holds start shape sheet (behind (readRows compression session)).rows
      ∧ Handed start rows (behind (checkedSession compression session)).rows.consumer
      ∧ (rows = sheet.completed ∨ rows = sheet.frame shape) := by
  have checked := Session.checkStop_eq session
  unfold readRows checkedSession
  cases asked : Stop.check session.stop with
  | error err stop =>
    rw [asked] at checked
    rw [bind_of_error checked, bind_of_error checked]
    exact ⟨{}, [], holds, holds.handed, .inl rfl⟩
  | ok _ stop =>
    rw [asked] at checked
    rw [bind_of_ok checked, bind_of_ok checked]
    have begun : Holds start shape {} ({ session with stop } : Session σ κ).rows := holds
    obtain ⟨outcome, ran⟩ :=
      exists_conclude (decodeRows compression { session with stop })
    have keeps := decodeRows_keeps ⟨begun, Nat.zero_le _⟩ compression
    obtain ⟨sheet, held⟩ : ∃ sheet, Holds start shape sheet
        (behind (decodeRows compression { session with stop })).rows := by
      cases read : decodeRows compression { session with stop } with
      | ok _ mid =>
        rw [read] at keeps
        obtain ⟨sheet, underway, -⟩ := keeps
        exact ⟨sheet, underway.holds⟩
      | error err mid =>
        rw [read] at keeps
        obtain ⟨sheet, held, -⟩ | refused := keeps
        · exact ⟨sheet, held⟩
        · exact absurd refused accepts.not_refused
    obtain ⟨rows, handed, ended⟩ := endRows_hands accepts held
      (behind (decodeRows compression { session with stop })).rows.assembler.row outcome
    refine ⟨sheet, rows, held, ?_, ended⟩
    rwa [decodeSession_eq ran]

end

/-! ## Packed rows -/

variable {σ κ : Type} [ByteSource σ] [RowSink κ] {format : FrameFormat} {sink : κ}
  {rows : RowState (Unpacker κ)}

/-- The session of a frame whose unpacker has a log. -/
def loggedSession (rows : RowState (Unpacker κ)) (source : σ) (stop : Stop) :
    Session σ (Logged (Unpacker κ)) :=
  { source, rows := ⟨rows.assembler, { consumer := rows.consumer }⟩, stop }

/-- **The packed rows of a frame**: those that its unpacker took, from top to bottom. There are
none if the frame cannot be set up. -/
def packedRows (format : FrameFormat) (source : σ) (sink : κ) (stop : Stop) : List Bytes :=
  match format.setUp sink with
  | .error _ => []
  | .ok rows =>
    (behind (checkedSession format.compression
      (loggedSession rows source stop))).rows.consumer.rows

/-- **How many bytes of its packed rows were written** before the frame was brought to its end:
those of the complete rows and those of the row in progress. -/
def writtenBytes (format : FrameFormat) (source : σ) (sink : κ) (stop : Stop) : Nat :=
  match format.setUp sink with
  | .error _ => 0
  | .ok rows =>
    let asm := (behind (readRows format.compression
      (loggedSession rows source stop))).rows.assembler
    asm.row * asm.width + asm.column

theorem packedRows_of_error {err : RasterError} (refused : format.setUp sink = .error err)
    (source : σ) (stop : Stop) : format.packedRows source sink stop = [] := by
  unfold packedRows
  rw [refused]

/-- **A frame does not notice the log** of its unpacker. -/
theorem decode_logged (ready : format.setUp sink = .ok rows) (source : σ) (stop : Stop) :
    let decoded := format.decode source sink stop
    let logged := (behind (checkedSession format.compression
      (loggedSession rows source stop))).rows.consumer.consumer
    decoded.sink = logged.sink ∧ decoded.clamped = logged.clamped := by
  have same := (checkedSession_compares (SourceSimulates.refl σ).compares
    (Logged.simulates (κ := Unpacker κ)) format.compression).compared
    ⟨source, rows, stop⟩ (loggedSession rows source stop) ⟨rfl, ⟨rfl, rfl⟩, rfl⟩
  dsimp only
  rw [decode_of_ok ready]
  generalize (checkedSession format.compression : SessionM σ (Unpacker κ) Outcome) _ = result,
    (checkedSession format.compression : SessionM σ (Logged (Unpacker κ)) Outcome) _ = result'
    at same ⊢
  cases same with
  | ok after =>
    have unnoticed := after.rows.consumer
    unfold behind
    dsimp only
    rw [unnoticed]
    exact ⟨rfl, rfl⟩
  | error _ after =>
    have unnoticed := after.rows.consumer
    unfold behind
    dsimp only
    rw [unnoticed]
    exact ⟨rfl, rfl⟩
  | fatal failed => exact failed.elim
  | late beyond => exact beyond.elim

/-- **What a frame does is done to its packed rows**, if the sink accepts all rows: its unpacker
was handed them, and there are only zeros behind the bytes that were written. -/
theorem decode_packedRows (ready : format.setUp sink = .ok rows)
    (accepts : Accepts rows.consumer format.rows) (source : σ) (stop : Stop) :
    let decoded := format.decode source sink stop
    let packed := format.packedRows source sink stop
    packed.length ≤ format.rows
      ∧ (∃ unpacker, Handed rows.consumer packed unpacker
        ∧ decoded.sink = unpacker.sink ∧ decoded.clamped = unpacker.clamped)
      ∧ ∀ y i row, packed[y]? = some row → i < rows.assembler.width →
        format.writtenBytes source sink stop ≤ y * rows.assembler.width + i →
        row[i]?.getD 0 = 0 := by
  have setUp := (format.setUp_yields sink).of_ok ready
  have height : rows.assembler.shape.rows = format.rows := setUp.rows_eq
  have logs := Logged.accepts (height ▸ accepts)
  have begun : Holds ({ consumer := rows.consumer } : Logged (Unpacker κ)) rows.assembler.shape {}
      (loggedSession rows source stop).rows := setUp.holds.restart _
  obtain ⟨sheet, packed, held, handed, ended⟩ :=
    checkedSession_hands logs begun format.compression
  obtain ⟨entered, handed⟩ := Logged.of_handed handed
  have packed_eq : format.packedRows source sink stop = packed := by
    unfold packedRows
    rw [ready]
    exact entered
  have written_eq : format.writtenBytes source sink stop
      = sheet.completed.length * rows.assembler.width + sheet.current.length := by
    have width := congrArg Shape.width held.shape_eq
    unfold writtenBytes
    rw [ready]
    dsimp only
    rw [held.row, held.column_eq]
    exact congrArg (fun width => sheet.completed.length * width + sheet.current.length) width
  have few : packed.length ≤ format.rows := by
    rw [← height]
    obtain rfl | rfl := ended
    · exact held.toWithin.rows
    · exact Nat.le_of_eq sheet.length_frame
  dsimp only
  rw [packed_eq, written_eq]
  exact ⟨few, ⟨_, handed, decode_logged ready source stop⟩,
    fun y i row there inside written => Sheet.byte_of_written_le ended there inside written⟩

end FrameFormat

end WpgRaster
