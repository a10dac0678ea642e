import Mathlib.Data.List.Forall2
import WpgRaster.Proofs.Frame.Failures
import WpgRaster.Proofs.Source.Supply

/-!
# Frames one behind the other

Nothing is read of a source that a frame does not need, and nothing is kept of a frame when
the next one is begun. So frames can be written one behind the other: if each of them
alone is complete just where its bytes end, then they are decoded from all the bytes as they
are alone (`FrameFormat.decodeAll_concatenated`).

The argument compares a cursor on the bytes of a frame with one that has more bytes behind
them (`Cursor.Ahead`). They deliver the same as long as the first one has bytes left. When
it has none, a frame that needs a further byte is truncated, and not complete: there the
comparison ends. Of packed rows this is so because a row that lacks a byte is not handed
over, and therefore not refused either.
-/

namespace WpgRaster

/-! ## More bytes behind -/

/-- The error at which a comparison with a longer source ends. -/
def RasterError.IsTruncation (err : RasterError) : Prop := err = .streamTruncated

/-- **A cursor, and another one with more bytes behind** those that are left. It is as far
from `origin` as the first one is from its start. -/
structure Cursor.Ahead (origin : Cursor) (more : List UInt8) (cursor cursor' : Cursor) :
    Prop where
  /-- Both have moved as far. -/
  eq : cursor' = origin.advance cursor.position
  /-- More bytes are left. -/
  rest : cursor'.rest = cursor.rest ++ more
  /-- There are as many at least in all. -/
  size : cursor.bytes.size ≤ cursor'.bytes.size

namespace Cursor.Ahead

variable {origin cursor cursor' : Cursor} {more : List UInt8}

/-- Both move on. -/
theorem advance (ahead : Ahead origin more cursor cursor') {count : Nat}
    (enough : count ≤ cursor.remaining) :
    Ahead origin more (cursor.advance count) (cursor'.advance count) where
  eq := by
    rw [ahead.eq, advance_advance]
    rfl
  rest := by
    rw [← length_rest] at enough
    rw [rest_advance, rest_advance, ahead.rest, List.drop_append_of_le_length enough]
  size := ahead.size

/-- There is as much at least. -/
theorem remaining_le (ahead : Ahead origin more cursor cursor') :
    cursor.remaining ≤ cursor'.remaining := by
  rw [← length_rest, ← length_rest, ahead.rest, List.length_append]
  exact Nat.le_add_right _ _

/-- What is there is the same. -/
theorem peek_eq (ahead : Ahead origin more cursor cursor') {count : Nat}
    (enough : count ≤ cursor.remaining) : cursor'.peek count = cursor.peek count := by
  rw [← length_rest] at enough
  apply Array.toList_inj.mp
  rw [toList_peek, toList_peek, ahead.rest, List.take_append_of_le_length enough]

/-- **The next byte is the same**, if there is one. -/
theorem nextByte : Matches (.until RasterError.IsTruncation (Ahead origin more))
    (Ahead origin more) (Token.nextByte : EStateM RasterError Cursor UInt8) Token.nextByte where
  compared cursor cursor' ahead := by
    obtain ⟨left, _, read, rfl⟩ | ⟨-, _, read, rfl⟩ := tracks.nextByte_eq (Eq.refl cursor)
    · obtain ⟨-, _, read', rfl⟩ | ⟨none, -⟩ := tracks.nextByte_eq (Eq.refl cursor')
      · rw [read, read', ahead.peek_eq left]
        exact .ok (ahead.advance left)
      · exact absurd ahead.remaining_le (by omega)
    · rw [read]
      exact .fatal rfl
  stays _ beyond := beyond.elim

end Cursor.Ahead

/-! ## Rows that lack a byte -/

/-- If there is room for whole rows, at least for one, then no row is begun. -/
theorem Sheet.Within.current_eq_nil {shape : Shape} {sheet : Sheet} (within : sheet.Within shape)
    {count : Nat} (room : sheet.room shape = (count + 1) * shape.width) : sheet.current = [] := by
  have column := within.column
  obtain ⟨open_, rows⟩ := Nat.exists_eq_add_of_le within.rows
  unfold Sheet.room at room
  rw [rows, Nat.add_mul, Nat.succ_mul] at room
  refine List.eq_nil_of_length_eq_zero ?_
  by_cases few : open_ ≤ count + 1
  · have := Nat.mul_le_mul_right shape.width few
    rw [Nat.succ_mul] at this
    omega
  · have := Nat.mul_le_mul_right shape.width (Nat.succ_le_of_lt (Nat.lt_of_not_le few))
    rw [Nat.succ_mul, Nat.succ_mul] at this
    omega

namespace Holds

variable {κ : Type} [RowConsumer κ] {start : κ} {shape : Shape} {sheet : Sheet}
  {state : RowState κ}

/-- A byte that does not complete a row is only stored. -/
theorem append_inside (holds : Holds start shape sheet state) (missing : ¬ sheet.IsComplete shape)
    (inside : sheet.current.length + 1 < shape.width) (byte : UInt8) :
    ∃ state', RowAssembler.append byte state = .ok () state' := by
  have width : state.assembler.width = shape.width := congrArg Shape.width holds.shape_eq
  have column := holds.column_eq
  have stored : (state.assembler.store byte).column = state.assembler.column + 1 := rfl
  have kept : (state.assembler.store byte).width = state.assembler.width := rfl
  unfold RowAssembler.append
  dsimp only
  rw [if_neg (fun full => missing (holds.isComplete_iff.mp full)), if_neg (by omega),
    if_neg (by omega)]
  exact ⟨_, rfl⟩

/-- **Bytes that do not complete a row are only stored**, so that nothing is refused. -/
theorem appendAll_inside (holds : Holds start shape sheet state)
    (missing : ¬ sheet.IsComplete shape) (bytes : List UInt8)
    (inside : sheet.current.length + bytes.length < shape.width) :
    ∃ state', RowAssembler.appendAll bytes state = .ok () state' := by
  induction bytes generalizing sheet state with
  | nil => exact ⟨state, rfl⟩
  | cons byte rest ih =>
    rw [List.length_cons] at inside
    obtain ⟨mid, stored⟩ := holds.append_inside missing (by omega) byte
    have landed := holds.append_lands byte
    rw [stored, Sheet.write_inside missing (by omega)] at landed
    obtain ⟨state', holds', landed⟩ | ⟨_, _, -, failed⟩ := landed
    · rw [if_pos missing] at landed
      cases landed
      obtain ⟨last, written⟩ := ih holds' missing (by
        rw [List.length_append, List.length_singleton]
        omega)
      exact ⟨last, (bind_of_ok stored).trans written⟩
    · cases failed

end Holds

/-! ## Sessions -/

variable {κ : Type} [RowConsumer κ] {origin : Cursor} {more : List UInt8}

/-- **Steps of a session that compare with those of one with more bytes behind**, up to the
error that a byte is missing. -/
abbrev MatchesAhead {α : Type} (origin : Cursor) (more : List UInt8)
    (step step' : SessionM Cursor κ α) : Prop :=
  SessionsCompare RasterError.IsTruncation (Cursor.Ahead origin more) Eq step step'

/-- Results of such steps. -/
abbrev ComparedAhead {α : Type} (origin : Cursor) (more : List UInt8)
    (result result' : EStateM.Result RasterError (Session Cursor κ) α) : Prop :=
  Compared (.until RasterError.IsTruncation (Session.Related (Cursor.Ahead origin more) Eq))
    (fun _ => Session.Related (Cursor.Ahead origin more) Eq) result result'

/-- A consumer does the same as itself. -/
theorem ConsumerSimulates.refl (κ : Type) [RowConsumer κ] :
    ConsumerSimulates (Eq : κ → κ → Prop) := fun _ _ => .refl _

namespace RunLength

/-- The session with more bytes may read more tokens, but a session that cannot read the
tokens it needs lacks a byte. -/
theorem run_ahead (generation : Generation) {fuel fuel' : Nat} (few : fuel ≤ fuel')
    (reg : SampleRegister) :
    MatchesAhead (κ := κ) origin more (run generation fuel reg) (run generation fuel' reg) := by
  induction fuel generalizing fuel' reg with
  | zero =>
    exact
      { compared := fun _ _ _ => .fatal rfl
        stays := fun _ beyond => beyond.elim }
  | succ fuel ih =>
    obtain ⟨fuel', rfl⟩ := Nat.exists_eq_add_one_of_ne_zero (Nat.ne_zero_of_lt few)
    refine Session.assembler_simulates.compares.bind fun asm => ?_
    refine .ite (fun _ => .pure ()) fun _ => ?_
    have stepped : MatchesAhead origin more (step generation reg : SessionM Cursor κ SampleRegister)
        (step generation reg) :=
      (SessionsCompare.tokenCongruence (.refl κ) Cursor.Ahead.nextByte).step generation reg
    exact stepped.bind fun reg => ih (Nat.le_of_succ_le_succ few) reg

theorem decode_ahead (generation : Generation) :
    MatchesAhead (κ := κ) origin more (decode generation) (decode generation) where
  compared _ _ related :=
    (run_ahead generation (Nat.succ_le_succ related.source.size) {}).compared _ _ related
  stays _ beyond := beyond.elim

end RunLength

namespace FrameFormat

variable {start : κ} {shape : Shape} {sheet : Sheet}

omit [RowConsumer κ] in
/-- What a packed row is on a cursor. -/
theorem onSource_nextRow (width : Nat) (session : Session Cursor κ) :
    Session.onSource (nextRow width) session
      = .ok (session.source.peek width) { session with
          source := session.source.advance (min width session.source.remaining) } := by
  obtain ⟨_, read, rfl⟩ := Cursor.tracks.nextRow_eq (Eq.refl session.source) width
  rw [Session.onSource_eq, read]

/-- **Packed rows are the same** with more bytes behind. A row that is all there is read of
either cursor, and the first row that is not is truncated. -/
theorem decodePacked_ahead (count : Nat) {sheet : Sheet} {cursor cursor' : Cursor}
    (ahead : Cursor.Ahead origin more cursor cursor') {rows : RowState κ} (stop : Stop)
    (holds : Holds start shape sheet rows) (room : sheet.room shape = count * shape.width) :
    ComparedAhead origin more (decodePacked shape.width count ⟨cursor, rows, stop⟩)
      (decodePacked shape.width count ⟨cursor', rows, stop⟩) := by
  induction count generalizing sheet cursor cursor' rows stop with
  | zero => exact .ok ⟨ahead, ⟨rfl, rfl⟩, rfl⟩
  | succ count ih =>
    have within := holds.toWithin
    have missing : ¬ sheet.IsComplete shape := by
      rw [← within.room_eq_zero_iff, room, Nat.succ_mul]
      have := holds.column
      omega
    unfold decodePacked
    rw [bind_of_ok (onSource_nextRow shape.width ⟨cursor, rows, stop⟩),
      bind_of_ok (onSource_nextRow shape.width ⟨cursor', rows, stop⟩)]
    dsimp only
    by_cases enough : shape.width ≤ cursor.remaining
    · have enough' := Nat.le_trans enough ahead.remaining_le
      have behind := ahead.advance enough
      have size : (cursor.peek shape.width).size = shape.width := by
        rw [cursor.size_peek, Nat.min_eq_left enough]
      have fits : (cursor.peek shape.width).toList.length ≤ sheet.room shape := by
        rw [Array.length_toList, size, room, Nat.succ_mul]
        exact Nat.le_add_left _ _
      have rest : (sheet.writeAll shape (cursor.peek shape.width).toList).room shape
          = count * shape.width := by
        rw [within.room_writeAll, Array.length_toList, size, room, Nat.succ_mul,
          Nat.add_sub_cancel]
      have landed := holds.appendAll_lands (cursor.peek shape.width).toList
      rw [Nat.min_eq_left enough, Nat.min_eq_left enough', ahead.peek_eq enough]
      obtain ⟨state, holds', landed⟩ | ⟨err, state, -, failed⟩ := landed
      · rw [if_pos fits] at landed
        rw [bind_of_ok (Session.onRows_of_ok landed _ stop),
          bind_of_ok (Session.onRows_of_ok landed _ stop), if_neg (by omega)]
        cases asked : Stop.check stop with
        | ok _ stop' =>
          rw [bind_of_ok (Session.checkStop_of_ok asked _ state),
            bind_of_ok (Session.checkStop_of_ok asked _ state)]
          exact ih behind stop' holds' rest
        | error err stop' =>
          rw [bind_of_error (Session.checkStop_of_error asked _ state),
            bind_of_error (Session.checkStop_of_error asked _ state)]
          exact .error rfl ⟨behind, ⟨rfl, rfl⟩, rfl⟩
      · rw [bind_of_error (Session.onRows_of_error failed _ stop),
          bind_of_error (Session.onRows_of_error failed _ stop)]
        exact .error rfl ⟨behind, ⟨rfl, rfl⟩, rfl⟩
    · -- what is left of the row is stored, and then it lacks a byte
      have size : (cursor.peek shape.width).size < shape.width := by
        rw [cursor.size_peek]
        omega
      obtain ⟨state, stored⟩ := holds.appendAll_inside missing (cursor.peek shape.width).toList
        (by rwa [within.current_eq_nil room, List.length_nil, Nat.zero_add, Array.length_toList])
      rw [bind_of_ok (Session.onRows_of_ok stored _ stop), if_pos size]
      exact .fatal rfl

/-- So are all rows of a frame. -/
theorem decodeRows_ahead (compression : Compression) {cursor cursor' : Cursor}
    (ahead : Cursor.Ahead origin more cursor cursor') {rows : RowState κ} (stop : Stop)
    (holds : Holds start shape {} rows) :
    ComparedAhead origin more (decodeRows compression ⟨cursor, rows, stop⟩)
      (decodeRows compression ⟨cursor', rows, stop⟩) := by
  have related : Session.Related (Cursor.Ahead origin more) Eq (⟨cursor, rows, stop⟩ : Session _ κ)
      ⟨cursor', rows, stop⟩ := ⟨ahead, ⟨rfl, rfl⟩, rfl⟩
  cases compression with
  | none =>
    have packed : ∀ source : Cursor, decodeRows .none ⟨source, rows, stop⟩
        = decodePacked shape.width shape.rows ⟨source, rows, stop⟩ := fun source =>
      Holds.decodeRows_none holds
    rw [packed, packed]
    exact decodePacked_ahead shape.rows ahead stop holds Sheet.room_empty
  | first => exact (RunLength.decode_ahead .first).compared _ _ related
  | second => exact (RunLength.decode_ahead .second).compared _ _ related

/-- A frame is complete if all its rows were read, or if there was no room for more. -/
theorem decodeRows_of_complete {σ : Type} [ByteSource σ] {compression : Compression}
    {session last : Session σ κ}
    (complete : decodeSession compression session = .ok .complete last) :
    decodeRows compression session = .ok () last
      ∨ decodeRows compression session = .error .rowsExhausted last := by
  cases rows : decodeRows compression session with
  | ok _ mid =>
    rw [decodeSession_of_ok rows] at complete
    cases complete
    exact .inl rfl
  | error err mid =>
    by_cases more : err = .rowsExhausted
    · subst more
      rw [decodeSession_of_rowsExhausted rows] at complete
      cases complete
      exact .inr rfl
    by_cases early : err = .streamTruncated
    · subst early
      rw [decodeSession_of_streamTruncated rows] at complete
      obtain ⟨_, _, -, ended⟩ := exists_of_bind_ok complete
      cases ended
    rw [decodeSession_of_error rows more early] at complete
    split at complete
    · obtain ⟨_, _, -, ended⟩ := exists_of_bind_ok complete
      cases ended
    · cases complete

/-- Behind a question that let it pass, a frame is decoded. -/
theorem exists_of_checkedSession_ok {σ : Type} [ByteSource σ] {compression : Compression}
    {source : σ} {rows : RowState κ} {stop : Stop} {outcome : Outcome} {last : Session σ κ}
    (ran : checkedSession compression ⟨source, rows, stop⟩ = .ok outcome last) :
    ∃ stop', Stop.check stop = .ok () stop'
      ∧ decodeSession compression ⟨source, rows, stop'⟩ = .ok outcome last := by
  obtain ⟨_, mid, checked, ended⟩ := exists_of_bind_ok ran
  cases asked : Stop.check stop with
  | ok _ stop' =>
    rw [Session.checkStop_of_ok asked] at checked
    cases checked
    exact ⟨stop', rfl, ended⟩
  | error err stop' =>
    rw [Session.checkStop_of_error asked] at checked
    cases checked

/-- **A frame that is complete is so with more bytes behind**, and leaves the same rows. -/
theorem checkedSession_ahead {compression : Compression} {cursor cursor' : Cursor}
    (ahead : Cursor.Ahead origin more cursor cursor') {rows : RowState κ} {stop : Stop}
    (holds : Holds start shape {} rows) {last : Session Cursor κ}
    (complete : checkedSession compression ⟨cursor, rows, stop⟩ = .ok .complete last) :
    ∃ last', checkedSession compression ⟨cursor', rows, stop⟩ = .ok .complete last'
      ∧ Session.Related (Cursor.Ahead origin more) Eq last last' := by
  obtain ⟨stop', asked, ended⟩ := exists_of_checkedSession_ok complete
  have compared := decodeRows_ahead compression ahead stop' holds
  have begun : checkedSession compression ⟨cursor', rows, stop⟩
      = decodeSession compression ⟨cursor', rows, stop'⟩ :=
    bind_of_ok (Session.checkStop_of_ok asked cursor' rows)
  rw [begun]
  generalize ran' : decodeRows compression ⟨cursor', rows, stop'⟩ = result' at compared
  obtain ran | ran := decodeRows_of_complete ended
  · rw [ran] at compared
    cases compared with
    | ok related => exact ⟨_, decodeSession_of_ok ran', related⟩
    | late beyond => exact beyond.elim
  · rw [ran] at compared
    cases compared with
    | error same related =>
      cases same
      exact ⟨_, decodeSession_of_rowsExhausted ran', related⟩
    | fatal truncated => cases truncated
    | late beyond => exact beyond.elim

end FrameFormat

/-! ## Packed frames -/

namespace FrameFormat

variable {start : κ} {shape : Shape}

/-- **Packed rows that were all read** were all there, and nothing else was read. Reading
them does not fail because all rows are there, unless the consumer says so. -/
theorem decodePacked_reads
    (plainly : ∀ consumer, ¬ Refused start shape.rows .rowsExhausted consumer) (count : Nat)
    {sheet : Sheet} (cursor : Cursor) {rows : RowState κ} (stop : Stop)
    (holds : Holds start shape sheet rows) (room : sheet.room shape = count * shape.width)
    (last : Session Cursor κ) :
    (decodePacked shape.width count ⟨cursor, rows, stop⟩ = .ok () last →
        count * shape.width ≤ cursor.remaining
          ∧ last.source = cursor.advance (count * shape.width))
      ∧ decodePacked shape.width count ⟨cursor, rows, stop⟩ ≠ .error .rowsExhausted last := by
  induction count generalizing sheet cursor rows stop with
  | zero =>
    rw [Nat.zero_mul]
    refine ⟨fun ran => ?_, nofun⟩
    cases ran
    exact ⟨Nat.zero_le _, rfl⟩
  | succ count ih =>
    have size := cursor.size_peek shape.width
    have fits : (cursor.peek shape.width).toList.length ≤ sheet.room shape := by
      rw [Array.length_toList, size, room, Nat.succ_mul]
      omega
    unfold decodePacked
    rw [bind_of_ok (onSource_nextRow shape.width ⟨cursor, rows, stop⟩)]
    dsimp only
    obtain ⟨state, holds', landed⟩ | ⟨err, state, refused, failed⟩ :=
      holds.appendAll_lands (cursor.peek shape.width).toList
    · rw [if_pos fits] at landed
      rw [bind_of_ok (Session.onRows_of_ok landed _ stop)]
      by_cases short : (cursor.peek shape.width).size < shape.width
      · rw [if_pos short]
        exact ⟨nofun, nofun⟩
      have enough : shape.width ≤ cursor.remaining := by omega
      have rest : (sheet.writeAll shape (cursor.peek shape.width).toList).room shape
          = count * shape.width := by
        rw [holds.room_writeAll, Array.length_toList, size, room, Nat.succ_mul]
        omega
      rw [if_neg short, Nat.min_eq_left enough]
      cases asked : Stop.check stop with
      | ok _ stop' =>
        rw [bind_of_ok (Session.checkStop_of_ok asked _ state)]
        obtain ⟨reads, more⟩ := ih (cursor.advance shape.width) stop' holds' rest
        refine ⟨fun ran => ?_, more⟩
        obtain ⟨there, behind⟩ := reads ran
        rw [cursor.remaining_advance] at there
        rw [Nat.succ_mul, Nat.add_comm (count * shape.width)]
        exact ⟨by omega, behind.trans (cursor.advance_advance _ _)⟩
      | error err stop' =>
        rw [bind_of_error (Session.checkStop_of_error asked _ state)]
        refine ⟨nofun, fun ended => ?_⟩
        unfold Stop.check at asked
        split at asked <;> cases asked
        cases ended
    · rw [bind_of_error (Session.onRows_of_error failed _ stop)]
      refine ⟨nofun, fun ended => ?_⟩
      cases ended
      exact plainly _ refused

end FrameFormat

/-! ## Frames and their bytes -/

/-- **A frame and its bytes**, with the sink for its rows and the stop. -/
structure FramePart (κ : Type) where
  /-- The format of the frame. -/
  format : FrameFormat
  /-- All bytes of the frame. -/
  bytes : Bytes
  /-- Where its rows go. -/
  sink : κ
  /-- What is asked whether to go on. -/
  stop : Stop

variable {σ κ : Type} [RowSink κ]

namespace FramePart

/-- The frame decoded from its bytes, without anything behind them. -/
def alone (part : FramePart κ) : Decoded Cursor κ :=
  part.format.decode (Cursor.ofBytes part.bytes) part.sink part.stop

/-- **A frame that is complete just where its bytes end.** -/
structure IsWhole (part : FramePart κ) : Prop where
  /-- It is complete. -/
  complete : part.alone.result = .ok .complete
  /-- No byte is left. -/
  position : part.alone.source.position = part.bytes.size

/-- **A frame that ended as alone**: with the same result, sink and stop, and with as many
indices clamped. -/
abbrev EndsAsAlone (part : FramePart κ) (decoded : Decoded σ κ) : Prop :=
  Decoded.Related (fun _ _ => True) Eq decoded part.alone

/-- The bytes of frames one behind the other. -/
def concat (parts : List (FramePart κ)) : List UInt8 :=
  parts.flatMap fun part => part.bytes.toList

end FramePart

namespace FrameFormat

/-- Decodes frames one after another, each from where the one before it ended. Answers the
frames and the source behind them. -/
def decodeAll [ByteSource σ] : List (FramePart κ) → σ → List (Decoded σ κ) × σ
  | [], source => ([], source)
  | part :: parts, source =>
    let decoded := part.format.decode source part.sink part.stop
    let (others, last) := decodeAll parts decoded.source
    (decoded :: others, last)

/-- **A frame ends as alone** if its bytes lie before a cursor, whatever comes behind them,
and the cursor is moved behind them. -/
theorem decode_whole {part : FramePart κ} (whole : part.IsWhole) {cursor : Cursor}
    {more : List UInt8} (rest : cursor.rest = part.bytes.toList ++ more) :
    let decoded := part.format.decode cursor part.sink part.stop
    part.EndsAsAlone decoded ∧ decoded.source = cursor.advance part.bytes.size := by
  obtain ⟨complete, position⟩ := whole
  unfold FramePart.EndsAsAlone
  unfold FramePart.alone at complete position ⊢
  have ahead : Cursor.Ahead cursor more (Cursor.ofBytes part.bytes) cursor :=
    { eq := rfl
      rest := rest
      size := by
        have length := congrArg List.length rest
        rw [cursor.length_rest, List.length_append, Array.length_toList] at length
        unfold Cursor.remaining at length
        show part.bytes.size ≤ cursor.bytes.size
        omega }
  cases ready : part.format.setUp part.sink with
  | error err =>
    rw [decode_of_error ready] at complete
    cases complete
  | ok rows =>
    have setUp := (part.format.setUp_yields part.sink).of_ok ready
    have decoded := decode_of_ok ready (Cursor.ofBytes part.bytes) part.stop
    cases ran : checkedSession part.format.compression
        (⟨.ofBytes part.bytes, rows, part.stop⟩ : Session Cursor (Unpacker κ)) with
    | error err last =>
      rw [ran] at decoded
      rw [decoded] at complete
      cases complete
    | ok outcome last =>
      rw [ran] at decoded
      rw [decoded] at complete position
      cases complete
      obtain ⟨last', ran', related⟩ := checkedSession_ahead ahead setUp.holds ran
      have consumer := related.rows.consumer
      rw [decoded, decode_of_ok ready cursor part.stop, ran']
      refine ⟨⟨rfl, trivial, ?_, related.stop.symm, ?_⟩, ?_⟩
      · exact congrArg Unpacker.sink consumer.symm
      · exact congrArg Unpacker.clamped consumer.symm
      · rw [← position]
        exact related.source.eq

/-- **A packed frame that is complete takes its rows from the source**, and nothing else. -/
theorem decode_packed (refuses : RefusesOutside κ) {format : FrameFormat} {width : Nat}
    (packed : format.compression = .none) (wide : format.rowByteWidth = .ok width)
    {cursor : Cursor} {sink : κ} {stop : Stop}
    (complete : (format.decode cursor sink stop).result = .ok .complete) :
    format.rows * width ≤ cursor.remaining
      ∧ (format.decode cursor sink stop).source = cursor.advance (format.rows * width) := by
  cases ready : format.setUp sink with
  | error err =>
    rw [decode_of_error ready] at complete
    cases complete
  | ok rows =>
    have setUp := (format.setUp_yields sink).of_ok ready
    have height : rows.assembler.shape.rows = format.rows := setUp.rows_eq
    have same : rows.assembler.shape.width = width := by
      have width_eq := setUp.width
      rw [wide] at width_eq
      cases width_eq
      rfl
    have plainly : ∀ consumer,
        ¬ Refused rows.consumer rows.assembler.shape.rows .rowsExhausted consumer :=
      fun _ refused => absurd (Unpacker.ofSink_of_refused refuses refused) nofun
    have decoded := decode_of_ok ready cursor stop
    cases ran : checkedSession format.compression
        (⟨cursor, rows, stop⟩ : Session Cursor (Unpacker κ)) with
    | error err last =>
      rw [ran] at decoded
      rw [decoded] at complete
      cases complete
    | ok outcome last =>
      rw [ran] at decoded
      rw [decoded] at complete ⊢
      cases complete
      obtain ⟨stop', -, ended⟩ := exists_of_checkedSession_ok ran
      have reads := decodePacked_reads plainly rows.assembler.shape.rows cursor stop' setUp.holds
        Sheet.room_empty last
      have all : decodeRows .none ⟨cursor, rows, stop'⟩ = _ :=
        Holds.decodeRows_none (σ := Cursor) setUp.holds
      rw [← height, ← same]
      rw [packed] at ended
      obtain complete | full := decodeRows_of_complete ended
      · exact reads.1 (all.symm.trans complete)
      · exact absurd (all.symm.trans full) reads.2

/-- Frames one behind the other, from a source that keeps track of a cursor. -/
theorem decodeAll_of_whole [ByteSource σ] {rel : σ → Cursor → Prop} (tracks : Tracks rel)
    {parts : List (FramePart κ)} (whole : ∀ part ∈ parts, part.IsWhole) {source : σ}
    {cursor : Cursor} {more : List UInt8} (related : rel source cursor)
    (rest : cursor.rest = FramePart.concat parts ++ more) :
    List.Forall₂ FramePart.EndsAsAlone parts (decodeAll parts source).1
      ∧ rel (decodeAll parts source).2 (cursor.advance (FramePart.concat parts).length) := by
  induction parts generalizing source cursor with
  | nil => exact ⟨.nil, related⟩
  | cons part parts ih =>
    have parted : FramePart.concat (part :: parts)
        = part.bytes.toList ++ FramePart.concat parts := List.flatMap_cons
    rw [parted, List.append_assoc] at rest
    obtain ⟨same, source_eq⟩ :=
      decode_whole (whole part List.mem_cons_self) rest
    have followed := decode_simulates tracks.simulates (.refl κ) part.format related
      (Eq.refl part.sink) part.stop
    have behind := followed.source
    rw [source_eq] at behind
    obtain ⟨others, last⟩ := ih (fun part among => whole part (List.mem_cons_of_mem _ among))
      behind (by
        rw [cursor.rest_advance, rest, ← Array.length_toList, List.drop_left])
    rw [parted, List.length_append, Array.length_toList, ← cursor.advance_advance]
    refine ⟨.cons ?_ others, last⟩
    exact ⟨followed.result.trans same.result, trivial, followed.sink.trans same.sink,
      followed.stop.trans same.stop, followed.clamped.trans same.clamped⟩

/-- **Frames one behind the other are decoded as they are alone.**

If each of some frames is complete just where its bytes end, then all of them are decoded
from their bytes one behind the other, whatever their formats, and whatever comes behind
the last of them: each ends with the result, the rows, and the clamped indices that it has
alone, and the source is behind the bytes of all of them. In particular, a packed frame
takes its rows from the source and nothing else.

The source may be any that keeps track of a cursor, such as the cursor itself. -/
theorem decodeAll_concatenated [ByteSource σ] {rel : σ → Cursor → Prop} (tracks : Tracks rel) :
    (∀ (parts : List (FramePart κ)) (source : σ) (cursor : Cursor) (more : List UInt8),
      rel source cursor → cursor.rest = FramePart.concat parts ++ more →
      (∀ part ∈ parts, part.IsWhole) →
      let decoded := decodeAll parts source
      List.Forall₂ FramePart.EndsAsAlone parts decoded.1
        ∧ rel decoded.2 (cursor.advance (FramePart.concat parts).length))
      ∧ ∀ (format : FrameFormat) (source : σ) (cursor : Cursor) (sink : κ) (stop : Stop)
          (width : Nat), RefusesOutside κ → rel source cursor →
        format.compression = .none → format.rowByteWidth = .ok width →
        let decoded := format.decode source sink stop
        decoded.result = .ok .complete →
        format.rows * width ≤ cursor.remaining
          ∧ rel decoded.source (cursor.advance (format.rows * width)) := by
  refine ⟨fun parts source cursor more related rest whole =>
    decodeAll_of_whole tracks whole related rest, ?_⟩
  intro format source cursor sink stop width refuses related packed wide decoded complete
  have followed := decode_simulates tracks.simulates (.refl κ) format related (Eq.refl sink) stop
  obtain ⟨there, source_eq⟩ :=
    decode_packed refuses packed wide (followed.result.symm.trans complete)
  exact ⟨there, source_eq ▸ followed.source⟩

/-- A packed row and a compressed one. -/
def packedAndCompressed : List (FramePart PixelBuffer) :=
  [⟨{ pair with compression := .none }, #[1, 2], pairImage, .never⟩,
    ⟨pair, #[0x82, 7], pairImage, .never⟩]

/-- The bytes of both. -/
def packedAndCompressedBytes : Cursor := .ofBytes #[1, 2, 0x82, 7]

set_option maxRecDepth 2000 in
/-- Both are decoded from these bytes, and the first one takes two of them. -/
theorem decodeAll_concatenated_packedAndCompressed :
    (∀ part ∈ packedAndCompressed, part.IsWhole) ∧ RefusesOutside PixelBuffer
      ∧ (let decoded := decodeAll packedAndCompressed packedAndCompressedBytes
        List.Forall₂ FramePart.EndsAsAlone packedAndCompressed decoded.1
          ∧ decoded.2 = packedAndCompressedBytes.advance 4
          ∧ decoded.1.map (·.sink.pixels) = [#[0x0101, 0x0202], #[0x0707, 0x0707]])
      ∧ let format : FrameFormat := { pair with compression := .none }
        format.rowByteWidth = .ok 2
          ∧ format.rows * 2 ≤ packedAndCompressedBytes.remaining
          ∧ (format.decode packedAndCompressedBytes pairImage .never).source
            = packedAndCompressedBytes.advance (format.rows * 2) := by
  have whole : ∀ part ∈ packedAndCompressed, part.IsWhole := by
    intro part among
    obtain rfl | rfl : part = ⟨{ pair with compression := .none }, #[1, 2], pairImage, .never⟩
        ∨ part = ⟨pair, #[0x82, 7], pairImage, .never⟩ := by
      simpa [packedAndCompressed] using among
    · exact ⟨rfl, rfl⟩
    · exact ⟨rfl, rfl⟩
  obtain ⟨frames, packed⟩ := decodeAll_concatenated (κ := PixelBuffer) Cursor.tracks
  obtain ⟨same, last⟩ := frames packedAndCompressed packedAndCompressedBytes
    packedAndCompressedBytes [] rfl rfl whole
  obtain ⟨there, source⟩ := packed { pair with compression := .none } packedAndCompressedBytes
    packedAndCompressedBytes pairImage .never 2 PixelBuffer.refusesOutside rfl rfl rfl rfl
  exact ⟨whole, PixelBuffer.refusesOutside, ⟨same, last, rfl⟩, rfl, there, source⟩

end FrameFormat

end WpgRaster
