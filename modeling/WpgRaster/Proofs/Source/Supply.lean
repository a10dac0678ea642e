import WpgRaster.Proofs.Frame.Recording
import WpgRaster.Proofs.Source.Rest
import WpgRaster.Source.ByteStream
import WpgRaster.Source.FaultyCursor

/-!
# Sources without faults

Decoding a frame asks its source for single bytes and for packed rows, and
a packed row is gathered from as many partial reads as it takes. How large
these are is up to the source. A source *supplies* a list of bytes if
decoding cannot tell it from a cursor that has these bytes left
(`Supplies`). For that it is enough that it delivers single bytes as the
cursor does, and some of the next bytes, at least one, to a partial read
(`Tracks.simulates`).

Cursors supply what they have left. So do byte streams, buffered or not,
and cursors that deliver rows in pieces of any size, as long as no byte is
broken.
-/

namespace WpgRaster

/-- **A source that supplies bytes**: decoding a frame takes it for a cursor
that has them left. -/
def Supplies {σ : Type} [ByteSource σ] (source : σ) (bytes : List UInt8) : Prop :=
  ∃ rel : σ → Cursor → Prop, SourceSimulates rel ∧ ∃ cursor, rel source cursor ∧ cursor.rest = bytes

/-- **A source that keeps track of a cursor**: what it delivers is what lies
before the cursor, and the cursor can be moved behind it. -/
structure Tracks {σ : Type} [ByteSource σ] (rel : σ → Cursor → Prop) : Prop where
  /-- Both hold as many bytes. -/
  size : ∀ source cursor, rel source cursor → ByteSource.size source = cursor.bytes.size
  /-- A byte that is there is delivered. -/
  next : ∀ source cursor, rel source cursor → 0 < cursor.remaining →
    ∃ source', ByteSource.take 1 source = .ok (cursor.peek 1) source'
      ∧ rel source' (cursor.advance 1)
  /-- At the end nothing is, and the source does not deny that it ended. -/
  ended : ∀ source cursor, rel source cursor → cursor.remaining = 0 →
    ∃ err source', ByteSource.take 1 source = .error err source' ∧ rel source' cursor
      ∧ ByteSource.atEnd source' ≠ .ok false
  /-- A partial read delivers some of the bytes that are there. -/
  chunk : ∀ need source cursor, rel source cursor → 0 < need →
    ∃ got source', ByteSource.takeUpTo need source = .ok (cursor.peek got) source'
      ∧ rel source' (cursor.advance got) ∧ got ≤ need ∧ got ≤ cursor.remaining
      ∧ (got = 0 → cursor.remaining = 0)

/-! ## Reading ahead of a cursor -/

namespace Cursor

theorem advance_zero (cursor : Cursor) : cursor.advance 0 = cursor := rfl

theorem advance_advance (cursor : Cursor) (count more : Nat) :
    (cursor.advance count).advance more = cursor.advance (count + more) := by
  unfold advance
  rw [Nat.add_assoc]

/-- Bytes may be looked at in portions. -/
theorem peek_append_peek (cursor : Cursor) (count more : Nat) :
    cursor.peek count ++ (cursor.advance count).peek more = cursor.peek (count + more) := by
  apply Array.toList_inj.mp
  simp only [Array.toList_append, toList_peek, rest_advance, List.take_add]

theorem peek_zero (cursor : Cursor) : cursor.peek 0 = #[] := by
  apply Array.toList_inj.mp
  rw [toList_peek, List.take_zero]

/-- There is nothing beyond what is left. -/
theorem peek_min_remaining (cursor : Cursor) (count : Nat) :
    cursor.peek (min count cursor.remaining) = cursor.peek count := by
  apply Array.toList_inj.mp
  rw [toList_peek, toList_peek, ← cursor.length_rest, ← List.take_take, List.take_length]

/-- A cursor keeps track of itself. -/
theorem tracks : Tracks (Eq : Cursor → Cursor → Prop) where
  size := by
    rintro source _ rfl
    rfl
  next := by
    rintro source _ rfl left
    exact ⟨_, if_pos left, rfl⟩
  ended := by
    rintro source _ rfl none
    refine ⟨_, source, if_neg (by omega), rfl, ?_⟩
    show Except.ok source.atEnd ≠ .ok false
    rw [source.atEnd_iff.mpr none]
    nofun
  chunk := by
    rintro need source _ rfl some
    refine ⟨min need source.remaining, _, ?_, rfl, by omega, by omega, by omega⟩
    rw [peek_min_remaining]
    rfl

end Cursor

namespace Tracks

variable {σ : Type} [ByteSource σ] {rel : σ → Cursor → Prop} {source : σ} {cursor : Cursor}

/-- **Partial reads add up**, whatever their sizes: to as many bytes as are
asked for, or to all that are left. -/
theorem gather_eq (tracks : Tracks rel) (related : rel source cursor) (fuel need : Nat)
    (enough : need ≤ fuel) (bytes : Bytes) :
    ∃ source', FrameFormat.gather fuel need bytes source = .ok (bytes ++ cursor.peek need) source'
      ∧ rel source' (cursor.advance (min need cursor.remaining)) := by
  induction fuel generalizing need bytes source cursor with
  | zero =>
    obtain rfl : need = 0 := Nat.eq_zero_of_le_zero enough
    refine ⟨source, ?_, ?_⟩
    · rw [cursor.peek_zero, Array.append_empty]
      rfl
    · rwa [Nat.zero_min, cursor.advance_zero]
  | succ fuel ih =>
    unfold FrameFormat.gather
    by_cases none : need = 0
    · refine ⟨source, ?_, ?_⟩
      · rw [if_pos none, none, cursor.peek_zero, Array.append_empty]
        rfl
      · rwa [none, Nat.zero_min, cursor.advance_zero]
    obtain ⟨got, source', taken, behind, few, there, ended⟩ :=
      tracks.chunk need source cursor related (Nat.pos_of_ne_zero none)
    have size : (cursor.peek got).size = got := by
      rw [cursor.size_peek]
      omega
    rw [if_neg none, bind_of_ok taken]
    by_cases nothing : got = 0
    · -- an empty read means that nothing is left
      have drained := ended nothing
      refine ⟨source', ?_, ?_⟩
      · rw [if_pos (by rw [Array.isEmpty_iff_size_eq_zero, size, nothing]),
          ← cursor.peek_min_remaining, drained, Nat.min_zero, cursor.peek_zero, Array.append_empty]
        rfl
      · rwa [drained, Nat.min_zero, ← nothing]
    · obtain ⟨last, gathered, rest⟩ := ih behind (need - got) (by omega) (bytes ++ cursor.peek got)
      refine ⟨last, ?_, ?_⟩
      · rw [if_neg (by rw [Array.isEmpty_iff_size_eq_zero, size]; exact nothing), size, gathered,
          Array.append_assoc, cursor.peek_append_peek, Nat.add_sub_cancel' few]
      · rw [cursor.remaining_advance, cursor.advance_advance] at rest
        rwa [show got + min (need - got) (cursor.remaining - got) = min need cursor.remaining by
          omega] at rest

theorem nextRow_eq (tracks : Tracks rel) (related : rel source cursor) (width : Nat) :
    ∃ source', FrameFormat.nextRow width source = .ok (cursor.peek width) source'
      ∧ rel source' (cursor.advance (min width cursor.remaining)) := by
  obtain ⟨source', gathered, behind⟩ := tracks.gather_eq related width width (Nat.le_refl _) #[]
  refine ⟨source', ?_, behind⟩
  unfold FrameFormat.nextRow EStateM.adaptExcept
  rw [gathered, Array.empty_append]

theorem nextByte_eq (tracks : Tracks rel) (related : rel source cursor) :
    (0 < cursor.remaining ∧ ∃ source',
      Token.nextByte source = .ok ((cursor.peek 1)[0]?.getD 0) source'
      ∧ rel source' (cursor.advance 1))
    ∨ (cursor.remaining = 0 ∧ ∃ source',
      Token.nextByte source = .error .streamTruncated source' ∧ rel source' cursor) := by
  unfold Token.nextByte ByteSource.next
  by_cases left : 0 < cursor.remaining
  · obtain ⟨source', taken, behind⟩ := tracks.next source cursor related left
    refine .inl ⟨left, source', ?_, behind⟩
    rw [bind_of_ok taken]
    rfl
  · have none : cursor.remaining = 0 := by omega
    obtain ⟨err, source', failed, behind, quiet⟩ := tracks.ended source cursor related none
    refine .inr ⟨none, source', ?_, behind⟩
    rw [bind_of_error failed]
    dsimp only
    cases asked : ByteSource.atEnd source' with
    | error cause => rfl
    | ok ended =>
      cases ended with
      | true => rfl
      | false => exact absurd asked quiet

/-- **What keeps track of a cursor takes its place.** -/
theorem simulates (tracks : Tracks rel) : SourceSimulates rel where
  size := tracks.size
  nextByte source cursor related := by
    obtain ⟨left, source', read, behind⟩ | ⟨none, source', read, behind⟩ :=
      tracks.nextByte_eq related
    · obtain ⟨-, _, read', rfl⟩ | ⟨none, -⟩ := Cursor.tracks.nextByte_eq (Eq.refl cursor)
      · rw [read, read']
        exact .ok behind
      · omega
    · obtain ⟨left, -⟩ | ⟨-, _, read', rfl⟩ := Cursor.tracks.nextByte_eq (Eq.refl cursor)
      · omega
      · rw [read, read']
        exact .error behind
  nextRow width source cursor related := by
    obtain ⟨source', read, behind⟩ := tracks.nextRow_eq related width
    obtain ⟨_, read', rfl⟩ := Cursor.tracks.nextRow_eq (Eq.refl cursor) width
    rw [read, read']
    exact .ok behind

end Tracks

/-! ## Which sources supply which bytes -/

/-- A cursor supplies what it has left. -/
theorem Cursor.supplies (cursor : Cursor) : Supplies cursor cursor.rest :=
  ⟨Eq, .refl Cursor, cursor, rfl, rfl⟩

/-- **A byte stream supplies what its cursor has left**, whatever its
buffering. -/
theorem ByteStream.supplies (stream : ByteStream) : Supplies stream stream.cursor.rest := by
  have tracks : Tracks fun (stream : ByteStream) cursor => stream.cursor = cursor :=
    { size := by
        rintro stream _ rfl
        rfl
      next := by
        rintro stream _ rfl left
        exact ⟨stream.advance 1, if_pos left, rfl⟩
      ended := by
        rintro stream _ rfl none
        refine ⟨_, stream, if_neg (by omega), rfl, ?_⟩
        show Except.ok stream.cursor.atEnd ≠ .ok false
        rw [stream.cursor.atEnd_iff.mpr none]
        nofun
      chunk := by
        rintro need stream _ rfl some
        refine ⟨min need stream.cursor.remaining, stream.advance (min need stream.cursor.remaining),
          ?_, rfl, by omega, by omega, by omega⟩
        rw [stream.cursor.peek_min_remaining]
        rfl }
  exact ⟨_, tracks.simulates, stream.cursor, rfl, rfl⟩

/-- Without broken bytes, what goes wrong goes wrong in the cursor. -/
theorem FaultyCursor.touchesFault_of_sound {source : FaultyCursor}
    (sound : source.brokenFrom = none) (count : Nat) : source.touchesFault count = false := by
  unfold touchesFault
  rw [sound]

/-- **A cursor without broken bytes supplies what is left of it**, in pieces
of any size, and even if it cannot tell whether it has ended. -/
theorem FaultyCursor.supplies (source : FaultyCursor) (sound : source.brokenFrom = none)
    (some : source.chunk ≠ some 0) : Supplies source source.cursor.rest := by
  have tracks : Tracks fun (source : FaultyCursor) cursor =>
      source.cursor = cursor ∧ source.brokenFrom = none ∧ source.chunk ≠ .some 0 :=
    { size := by
        rintro source _ ⟨rfl, -⟩
        rfl
      next := by
        rintro source _ ⟨rfl, sound, some⟩ left
        refine ⟨{ source with cursor := source.cursor.advance 1 }, ?_, rfl, sound, some⟩
        have taken : Cursor.take 1 source.cursor
            = .ok (source.cursor.peek 1) (source.cursor.advance 1) := if_pos left
        show take 1 source = _
        simp only [take, touchesFault_of_sound sound, Bool.false_eq_true, if_false, onCursor, taken]
      ended := by
        rintro source _ ⟨rfl, sound, some⟩ none
        have failed : Cursor.take 1 source.cursor
            = .error (.shortRead 1 source.cursor.remaining) source.cursor := if_neg (by omega)
        refine ⟨.shortRead 1 source.cursor.remaining, source, ?_, ⟨rfl, sound, some⟩, ?_⟩
        · show take 1 source = _
          simp only [take, touchesFault_of_sound sound, Bool.false_eq_true, if_false, onCursor,
            failed]
        · show (if source.endUnknown then _ else Except.ok source.cursor.atEnd) ≠ .ok false
          rw [source.cursor.atEnd_iff.mpr none]
          split <;> nofun
      chunk := by
        rintro need source _ ⟨rfl, sound, some⟩ wanted
        have quota : 0 < source.quota need ∧ source.quota need ≤ need := by
          unfold FaultyCursor.quota
          rw [sound]
          cases chunk : source.chunk with
          | none => exact ⟨wanted, Nat.le_refl _⟩
          | some size =>
            rw [chunk] at some
            have : size ≠ 0 := fun zero => some (congrArg Option.some zero)
            show 0 < min need size ∧ min need size ≤ need
            omega
        refine ⟨min (source.quota need) source.cursor.remaining,
          { source with cursor :=
              source.cursor.advance (min (source.quota need) source.cursor.remaining) },
          ?_, ⟨rfl, sound, some⟩, by omega, by omega, by omega⟩
        rw [source.cursor.peek_min_remaining]
        show takeUpTo need source = _
        simp only [takeUpTo, touchesFault_of_sound sound, Bool.false_eq_true, if_false, onCursor,
          Cursor.takeUpTo] }
  exact ⟨_, tracks.simulates, source.cursor, ⟨rfl, sound, some⟩, rfl⟩

/-! ## Decoding -/

/-- A sink takes its own place. -/
theorem SinkSimulates.refl (κ : Type) [RowSink κ] : SinkSimulates (Eq : κ → κ → Prop) where
  width sink sink' same := by rw [same]
  height sink sink' same := by rw [same]
  colorSpace sink sink' same := by rw [same]
  beginRow row := .refl _
  writeRow row samples sink sink' same := by rw [same]
  commitRow row := .refl _

/-- **Only the bytes matter that a source supplies**: a frame is decoded as
from a cursor on them. -/
theorem Supplies.decode_eq {σ κ : Type} [ByteSource σ] [RowSink κ] {source : σ}
    {bytes : List UInt8} (supplies : Supplies source bytes) (format : FrameFormat) (sink : κ)
    (stop : Stop) :
    ∃ cursor : Cursor, cursor.rest = bytes
      ∧ let decoded := format.decode source sink stop
        let decoded' := format.decode cursor sink stop
        decoded.result = decoded'.result ∧ decoded.sink = decoded'.sink
          ∧ decoded.stop = decoded'.stop ∧ decoded.clamped = decoded'.clamped := by
  obtain ⟨rel, simulates, cursor, related, rest⟩ := supplies
  have same := FrameFormat.decode_simulates simulates (.refl κ) format related (Eq.refl sink) stop
  exact ⟨cursor, rest, same.result, same.sink, same.stop, same.clamped⟩

end WpgRaster
