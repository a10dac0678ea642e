import WpgRaster.Proofs.Frame.Safety
import WpgRaster.Proofs.Frame.Recording
import WpgRaster.Pixel.GuardedSink
import WpgRaster.Proofs.Pixel.Buffer
import WpgRaster.Source.Cursor

/-!
# The protocol of row sinks

A row sink is asked to begin row 0, to commit it, to begin row 1, and so
on. Whatever the source, the stop and the sink, decoding makes the calls
of the protocol in order and stops calling when a call fails; and a frame
that is reported as decoded or as aborted has all its rows committed
(`decode_follows_protocol`).
-/

namespace WpgRaster

/-- **A sink that only refuses rows it does not have.** -/
structure RefusesOutside (κ : Type) [RowSink κ] : Prop where
  /-- A row that cannot be begun is out of bounds. -/
  begin : ∀ row (sink : κ) err after, RowSink.beginRow row sink = .error err after →
    ∃ index rows, err = .rowOutOfBounds index rows
  /-- So is a row that cannot be committed. -/
  commit : ∀ row (sink : κ) err after, RowSink.commitRow row sink = .error err after →
    ∃ index rows, err = .rowOutOfBounds index rows

/-- Calls that went well. -/
def succeeded (calls : List RowCall) : List (RowCall × Bool) := calls.map fun call => (call, true)

/-- The calls of a row up to the first that fails. A row that is too short
for its samples is begun and not committed. -/
def Broken (row : Nat) (calls : List (RowCall × Bool)) : Prop :=
  calls = [(.begin row, false)] ∨ calls = [(.begin row, true)]
    ∨ calls = [(.begin row, true), (.commit row, false)]

/-- **What a row sends to its sink**: both calls if it is taken, or the
calls up to the first that fails, and then the error is that of the sink
or says that the row is too short. A row of more samples than a word
counts sends nothing. -/
theorem Unpacker.consume_recorded {κ : Type} [RowSink κ] (refuses : RefusesOutside κ)
    (unpacker : Unpacker (Recorded κ)) (row : Nat) (bytes : Bytes) :
    match RowConsumer.consume row bytes unpacker with
    | .ok _ after =>
      after.sink.calls = unpacker.sink.calls ++ succeeded [.begin row, .commit row]
    | .error err after =>
      FrameFormat.Plainly err
        ∧ ∃ last, after.sink.calls = unpacker.sink.calls ++ last
          ∧ (last = [] ∨ Broken row last) := by
  have consumed : RowConsumer.consume row bytes unpacker = consumeRow row bytes unpacker := rfl
  obtain ⟨expander, ⟨sink, calls⟩, clamped⟩ := unpacker
  rw [consumed]
  unfold consumeRow
  dsimp only
  by_cases word : Size.limit ≤ expander.sampleCount
  · rw [if_pos word]
    exact ⟨⟨nofun, nofun, rfl⟩, [], (List.append_nil _).symm, .inl rfl⟩
  rw [if_neg word]
  cases begun : RowSink.beginRow row sink with
  | error err sink' =>
    obtain ⟨index, rows, rfl⟩ := refuses.begin row sink _ _ begun
    have begun' : RowSink.beginRow row (⟨sink, calls⟩ : Recorded κ) = _ :=
      Recorded.record_of_error begun
    rw [begun']
    exact ⟨⟨nofun, nofun, rfl⟩, _, rfl, .inr (.inl rfl)⟩
  | ok length sink' =>
    have begun' : RowSink.beginRow row (⟨sink, calls⟩ : Recorded κ) = _ :=
      Recorded.record_of_ok begun
    rw [begun']
    dsimp only
    by_cases short : length < expander.sampleCount
    · rw [if_pos short]
      exact ⟨⟨nofun, nofun, rfl⟩, _, rfl, .inr (.inr (.inl rfl))⟩
    · rw [if_neg short]
      generalize expander.expand bytes = samples
      cases committed : RowSink.commitRow row (RowSink.writeRow row samples sink') with
      | error err sink'' =>
        obtain ⟨index, rows, rfl⟩ := refuses.commit row _ _ _ committed
        have committed' : RowSink.commitRow row (RowSink.writeRow row samples
            (⟨sink', calls ++ [(.begin row, true)]⟩ : Recorded κ)) = _ :=
          Recorded.record_of_error committed
        rw [committed']
        exact ⟨⟨nofun, nofun, rfl⟩, _, List.append_assoc _ _ _, .inr (.inr (.inr rfl))⟩
      | ok _ sink'' =>
        have committed' : RowSink.commitRow row (RowSink.writeRow row samples
            (⟨sink', calls ++ [(.begin row, true)]⟩ : Recorded κ)) = _ :=
          Recorded.record_of_ok committed
        rw [committed']
        exact List.append_assoc _ _ _

/-! ## Orderly calls -/

/-- The calls for one row more. -/
theorem protocol_succ (rows : Nat) :
    protocol (rows + 1) = protocol rows ++ [.begin rows, .commit rows] := by
  unfold protocol
  rw [List.range_succ, List.flatMap_append, List.flatMap_singleton]

theorem protocol_isPrefix {row rows : Nat} (le : row ≤ rows) : protocol row <+: protocol rows := by
  obtain ⟨more, rfl⟩ := Nat.exists_eq_add_of_le le
  unfold protocol
  rw [List.range_add, List.flatMap_append]
  exact List.prefix_append _ _

theorem succeeded_append (calls more : List RowCall) :
    succeeded (calls ++ more) = succeeded calls ++ succeeded more := List.map_append

theorem map_fst_succeeded (calls : List RowCall) : (succeeded calls).map Prod.fst = calls := by
  unfold succeeded
  rw [List.map_map]
  exact List.map_id calls

theorem snd_of_mem_succeeded {calls : List RowCall} {call : RowCall × Bool}
    (among : call ∈ succeeded calls) : call.2 = true := by
  obtain ⟨_, -, rfl⟩ := List.mem_map.mp among
  rfl

/-- **Calls in order**: those of some rows, and then perhaps those of a row
that was not taken. -/
def Orderly (rows : Nat) (calls : List (RowCall × Bool)) : Prop :=
  (∃ row, row ≤ rows ∧ calls = succeeded (protocol row))
  ∨ ∃ row last, row < rows ∧ Broken row last ∧ calls = succeeded (protocol row) ++ last

namespace Orderly

variable {rows : Nat} {calls : List (RowCall × Bool)}

/-- Orderly calls follow the protocol. -/
theorem map_fst_isPrefix (orderly : Orderly rows calls) : calls.map Prod.fst <+: protocol rows := by
  obtain ⟨row, few, rfl⟩ | ⟨row, last, few, broken, rfl⟩ := orderly
  · rw [map_fst_succeeded]
    exact protocol_isPrefix few
  · have begun : last.map Prod.fst <+: [RowCall.begin row, RowCall.commit row] := by
      obtain rfl | rfl | rfl := broken
      · exact ⟨[.commit row], rfl⟩
      · exact ⟨[.commit row], rfl⟩
      · exact ⟨[], rfl⟩
    refine List.IsPrefix.trans ?_ (protocol_isPrefix few)
    rw [List.map_append, map_fst_succeeded, protocol_succ]
    exact (List.prefix_append_right_inj _).mpr begun

/-- Only the last of orderly calls fails. -/
theorem succeeds_before_last (orderly : Orderly rows calls) :
    ∀ call ∈ calls.dropLast, call.2 = true := by
  intro call among
  obtain ⟨row, -, rfl⟩ | ⟨row, last, -, broken, rfl⟩ := orderly
  · exact snd_of_mem_succeeded (List.dropLast_subset _ among)
  · have some : last ≠ [] := by
      obtain rfl | rfl | rfl := broken <;> exact List.cons_ne_nil _ _
    rw [List.dropLast_append_of_ne_nil some] at among
    obtain before | here := List.mem_append.mp among
    · exact snd_of_mem_succeeded before
    · obtain rfl | rfl | rfl := broken
      · cases here
      · cases here
      · rw [List.mem_singleton.mp here]

end Orderly

/-! ## Whole frames -/

section

variable {κ : Type} [RowSink κ] {start unpacker : Unpacker (Recorded κ)}

/-- Rows that were handed over were begun and committed. -/
theorem calls_of_handed (refuses : RefusesOutside κ) (fresh : start.sink.calls = [])
    {rows : List Bytes} (handed : Handed start rows unpacker) :
    unpacker.sink.calls = succeeded (protocol rows.length) := by
  induction handed with
  | none => exact fresh
  | @more rows row before after _ taken ih =>
    have sent := before.consume_recorded refuses rows.length row
    rw [taken] at sent
    rw [sent, ih, List.length_append, List.length_singleton, protocol_succ, succeeded_append]

/-- A row that was refused is broken off. -/
theorem orderly_of_refused (refuses : RefusesOutside κ) (fresh : start.sink.calls = [])
    {limit : Nat} {err : RasterError} (refused : Refused start limit err unpacker) :
    FrameFormat.Plainly err ∧ Orderly limit unpacker.sink.calls := by
  obtain ⟨rows, row, before, handed, few, failed⟩ := refused
  have sent := before.consume_recorded refuses rows.length row
  rw [failed] at sent
  obtain ⟨plainly, last, calls, sent⟩ := sent
  rw [calls_of_handed refuses fresh handed] at calls
  obtain rfl | broken := sent
  · rw [List.append_nil] at calls
    exact ⟨plainly, .inl ⟨rows.length, Nat.le_of_lt few, calls⟩⟩
  · exact ⟨plainly, .inr ⟨rows.length, last, few, broken, calls⟩⟩

end

/-- **A frame that followed the protocol**: its calls are orderly, and there
are all of them if it is reported as decoded or as aborted. -/
structure Followed {σ κ : Type} (rows : Nat) (decoded : Decoded σ (Recorded κ)) : Prop where
  /-- The calls are those of the protocol as far as they go. -/
  orderly : Orderly rows decoded.sink.calls
  /-- They are complete if the rows are. -/
  all : (∃ outcome, decoded.result = .ok outcome)
      ∨ (∃ err, decoded.result = .error err ∧ err.abortsFrame = true) →
    decoded.sink.calls = succeeded (protocol rows)

/-- A frame that ends with an error is complete if the error aborts it. -/
theorem Followed.of_error {σ κ : Type} {rows : Nat} {decoded : Decoded σ (Recorded κ)}
    {err : RasterError} (failed : decoded.result = .error err)
    (orderly : Orderly rows decoded.sink.calls)
    (all : err.abortsFrame = true → decoded.sink.calls = succeeded (protocol rows)) :
    Followed rows decoded := by
  refine ⟨orderly, ?_⟩
  rintro (⟨outcome, ok⟩ | ⟨err', failed', aborts⟩)
  · rw [failed] at ok
    cases ok
  · rw [failed] at failed'
    cases failed'
    exact all aborts

/-- Recorded frames follow the protocol. -/
theorem FrameFormat.decode_followed {σ κ : Type} [ByteSource σ] [RowSink κ]
    (refuses : RefusesOutside κ) (format : FrameFormat) (source : σ) (sink : κ) (stop : Stop) :
    Followed format.rows (format.decode source (Recorded.mk sink []) stop) := by
  cases ready : format.setUp (Recorded.mk sink []) with
  | error err =>
    have quiet := ((format.setUp_yields (Recorded.mk sink [])).of_error ready).abortsFrame_eq
    rw [decode_of_error ready]
    exact .of_error rfl (.inl ⟨0, Nat.zero_le _, rfl⟩) fun aborts => by
      rw [quiet] at aborts
      cases aborts
  | ok rows =>
    have setUp := (format.setUp_yields (Recorded.mk sink [])).of_ok ready
    have fresh : rows.consumer.sink.calls = [] := by rw [setUp.fits.sink_eq]
    have begun : Holds rows.consumer rows.assembler.shape {}
        ({ source, rows, stop } : Session σ (Unpacker (Recorded κ))).rows := setUp.holds
    have settled := checkedSession_settles begun
      (fun err consumer refused => (orderly_of_refused refuses fresh refused).1)
      format.compression
    have height : rows.assembler.shape.rows = format.rows := setUp.rows_eq
    rw [decode_of_ok ready]
    split
    · next outcome session ended =>
      rw [ended] at settled
      obtain ⟨handedRows, handed, all⟩ := settled
      have calls := calls_of_handed refuses fresh handed
      rw [all, height] at calls
      exact ⟨.inl ⟨_, Nat.le_refl _, calls⟩, fun _ => calls⟩
    · next err session ended =>
      rw [ended] at settled
      obtain ⟨handedRows, handed, few, all⟩ | refused := settled
      · have calls := calls_of_handed refuses fresh handed
        rw [height] at few all
        exact .of_error rfl (.inl ⟨_, few, calls⟩) fun aborts => all aborts ▸ calls
      · -- What a sink refuses does not abort the frame.
        obtain ⟨plainly, orderly⟩ := orderly_of_refused refuses fresh refused
        rw [height] at orderly
        exact .of_error rfl orderly fun aborts => by
          rw [plainly.2.2] at aborts
          cases aborts

/-- **Decoding follows the protocol of row sinks**, whatever the format, the
source, the stop and the sink, as long as the sink only refuses rows that
it does not have. Its calls are those of the protocol, in order, as far as
they go; nothing is called after a call that failed; and once the frame is
reported as decoded or as aborted, all rows were begun and committed. -/
theorem FrameFormat.decode_follows_protocol {σ κ : Type} [ByteSource σ] [RowSink κ]
    (refuses : RefusesOutside κ) (format : FrameFormat) (source : σ) (sink : κ)
    (stop : Stop) :
    let result := (format.decode source sink stop).result
    let calls := format.sinkCalls source sink stop
    calls.map Prod.fst <+: protocol format.rows
      ∧ (∀ call ∈ calls.dropLast, call.2 = true)
      ∧ ((∃ outcome, result = .ok outcome)
            ∨ (∃ err, result = .error err ∧ err.abortsFrame = true) →
          calls = succeeded (protocol format.rows)) := by
  have followed := format.decode_followed refuses source sink stop
  have same := (format.decode_recorded source sink stop).result
  dsimp only
  rw [same]
  exact ⟨followed.orderly.map_fst_isPrefix, followed.orderly.succeeds_before_last, followed.all⟩

/-- An image only refuses rows that it does not have. -/
theorem PixelBuffer.refusesOutside : RefusesOutside PixelBuffer where
  begin row image err after failed := by
    change (if image.height ≤ row then _ else _) = _ at failed
    split at failed <;> cases failed
    exact ⟨_, _, rfl⟩
  commit row image err after failed := by
    change (if image.height ≤ row then _ else _) = _ at failed
    split at failed <;> cases failed
    exact ⟨_, _, rfl⟩

/-- Neither does a guard. -/
theorem GuardedSink.refusesOutside : RefusesOutside GuardedSink := by
  have guarded : ∀ {row limit err}, guardRow row limit = .error err →
      ∃ index rows, err = .rowOutOfBounds index rows := by
    intro row limit err failed
    unfold guardRow at failed
    repeat' split at failed
    all_goals cases failed
    exact ⟨_, _, rfl⟩
  have kept : ∀ {α : Type} {op : EStateM RasterError PixelBuffer α} {guard err after},
      onBuffer op guard = .error err after → ∃ image, op guard.buffer = .error err image := by
    intro α op guard err after failed
    unfold onBuffer at failed
    split at failed
    · cases failed
    · next broken =>
      cases failed
      exact ⟨_, broken⟩
  constructor
  · intro row guard err after failed
    change GuardedSink.beginRow row guard = _ at failed
    unfold GuardedSink.beginRow at failed
    split at failed
    · next refused =>
      cases failed
      exact guarded refused
    · split at failed
      · cases failed
      · next broken =>
        cases failed
        obtain ⟨image, broken⟩ := kept broken
        exact PixelBuffer.refusesOutside.begin row _ _ image broken
  · intro row guard err after failed
    change GuardedSink.commitRow row guard = _ at failed
    unfold GuardedSink.commitRow at failed
    split at failed
    · next refused =>
      cases failed
      exact guarded refused
    · obtain ⟨image, broken⟩ := kept failed
      exact PixelBuffer.refusesOutside.commit row _ _ image broken

/-- A guard in front of two rows of two pixels, which does not let the
second row be committed. -/
def FrameFormat.guardedPair : GuardedSink where
  buffer := ⟨2, 2, .luma, #[0, 0, 0, 0], 0⟩
  width := 2
  height := 2
  colorSpace := .luma
  commitLimit := some 1

/-- The second row is begun and not committed. -/
theorem FrameFormat.decode_follows_protocol_guardedPair :
    RefusesOutside GuardedSink
      ∧ let format := { pair with rows := 2 }
        let source := Cursor.ofBytes #[0x84, 7]
        let result := (format.decode source guardedPair .never).result
        let calls := format.sinkCalls source guardedPair .never
        (calls.map Prod.fst <+: protocol format.rows
          ∧ (∀ call ∈ calls.dropLast, call.2 = true)
          ∧ ((∃ outcome, result = .ok outcome)
                ∨ (∃ err, result = .error err ∧ err.abortsFrame = true) →
              calls = succeeded (protocol format.rows)))
        ∧ result = .error (.rowOutOfBounds 1 1)
        ∧ calls = [(.begin 0, true), (.commit 0, true), (.begin 1, true), (.commit 1, false)] :=
  ⟨GuardedSink.refusesOutside,
    decode_follows_protocol GuardedSink.refusesOutside { pair with rows := 2 }
      (Cursor.ofBytes #[0x84, 7]) guardedPair .never, rfl, rfl⟩

end WpgRaster
