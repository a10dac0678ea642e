import WpgRaster.Proofs.Source.Faithful
import WpgRaster.Proofs.Source.Handles
import WpgRaster.Proofs.Source.Lawful

/-!
# Cursors and streams are faithful

A cursor is faithful to the bytes that it has. So is a cursor with faults, as long as these do
not concern what is read or whether anything is left: it may deliver pieces of any size, and it
may refuse to be moved to a place that is measured from its end.

A byte stream is faithful as well, however it hands out its bytes. What it does beyond the end
depends on that, but nothing is read there.
-/

namespace WpgRaster

variable {file : Bytes}

/-- The byte at a position is all that is served of one byte. -/
theorem Served.byte {here : Nat} {byte : UInt8} (there : file[here]? = some byte) :
    Served file 1 here #[byte] (here + 1) := by
  obtain ⟨inside, rfl⟩ := Array.getElem?_eq_some_iff.mp there
  have single : file.extract here (here + 1) = #[file[here]] := by
    apply Array.toList_inj.mp
    rw [Array.toList_extract, List.extract_eq_take_drop, Nat.add_sub_cancel_left,
      List.drop_eq_getElem_cons (Array.length_toList.symm ▸ inside)]
    rfl
  rw [← single]
  exact .whole (by omega)

/-- A byte that is not there is zero. -/
theorem Served.zero {here there : Nat} (none : file[here]? = none) (ended : file.size ≤ there) :
    Served file 1 here #[0] there := by
  have beyond := Array.getElem?_eq_none_iff.mp none
  exact .short (by omega) ended

namespace Cursor

/-- Cursors of a file. -/
def Of (file : Bytes) (cursor : Cursor) : Prop := cursor.bytes = file

variable {cursor : Cursor}

theorem served_nextOrZero (cursor : Cursor) :
    Served cursor.bytes 1 cursor.position #[cursor.nextOrZero.1] cursor.nextOrZero.2.position := by
  unfold nextOrZero
  cases there : cursor.bytes[cursor.position]? with
  | some byte => exact .byte there
  | none => exact .zero there (Array.getElem?_eq_none_iff.mp there)

theorem served_takeOrZeros (count : Nat) (cursor : Cursor) :
    Served cursor.bytes count cursor.position (cursor.takeOrZeros count).1
      (cursor.takeOrZeros count).2.position := by
  unfold takeOrZeros
  by_cases enough : count ≤ cursor.remaining
  · rw [if_pos enough]
    exact .whole enough
  · rw [if_neg enough]
    exact .short (Nat.lt_of_not_le enough) (Nat.le_max_right _ _)

theorem eq_of_offsetFrom {base position : Nat} {offset : Int}
    (reached : offsetFrom base offset = .ok position) : (position : Int) = base + offset := by
  unfold offsetFrom at reached
  split at reached
  · cases reached
  · split at reached
    · cases reached
    · split at reached
      · cases reached
      · next inside =>
        cases reached
        exact Int.toNat_of_nonneg (Int.not_lt.mp inside)

theorem eq_of_locate {target : SeekTarget} {position : Nat}
    (located : cursor.locate target = .ok position) :
    (position : Int) = target.place cursor.bytes.size cursor.position := by
  cases target with
  | start position =>
    cases located
    rfl
  | fromEnd offset => exact eq_of_offsetFrom located
  | current offset => exact eq_of_offsetFrom located

theorem seek_settles (target : SeekTarget) (of : cursor.Of file) :
    Settled (Of file) cursor.position (fun position there =>
      position = there ∧ (there : Int) = target.place file.size cursor.position)
      (seek target cursor) := by
  unfold seek
  cases located : cursor.locate target with
  | ok position =>
    have place := eq_of_locate located
    rw [show cursor.bytes = file from of] at place
    exact .ok of ⟨rfl, place⟩
  | error err => exact .error of rfl

theorem take_settles (count : Nat) (of : cursor.Of file) :
    Settled (Of file) cursor.position (fun bytes there =>
      count ≤ file.size - cursor.position
        ∧ bytes = file.extract cursor.position there ∧ there = cursor.position + count)
      (take count cursor) := by
  obtain rfl : cursor.bytes = file := of
  unfold take
  by_cases enough : count ≤ cursor.remaining
  · rw [if_pos enough]
    exact .ok rfl ⟨enough, rfl, rfl⟩
  · rw [if_neg enough]
    exact .error rfl rfl

theorem takeUpTo_settles (limit : Nat) (of : cursor.Of file) :
    Settled (Of file) cursor.position (fun bytes there =>
      bytes = file.extract cursor.position there ∧ there ≤ cursor.position + limit)
      (takeUpTo limit cursor) := by
  obtain rfl : cursor.bytes = file := of
  refine .ok rfl ⟨(cursor.peek_min_remaining limit).symm, ?_⟩
  exact Nat.add_le_add_left (Nat.min_le_left _ _) _

/-- **Cursors are faithful** to their bytes. -/
theorem faithful (file : Bytes) : Faithful file (Of file) where
  atEnd := by
    rintro cursor rfl
    rfl
  askEnd := by
    rintro cursor rfl
    exact ⟨cursor, rfl, rfl, rfl⟩
  nextOrZero := by
    rintro cursor rfl
    exact ⟨cursor.bytes_nextOrZero, cursor.served_nextOrZero⟩
  takeOrZeros := by
    rintro count cursor rfl
    exact ⟨cursor.bytes_takeOrZeros count, cursor.served_takeOrZeros count⟩
  take count _ of := take_settles count of
  takeUpTo limit _ of := takeUpTo_settles limit of
  seek target _ of := seek_settles target of
  seek_start _ _ _ := ⟨_, rfl⟩

end Cursor

namespace FaultyCursor

/-- Cursors of a file that read all of it, and know whether it has ended. -/
structure Of (file : Bytes) (source : FaultyCursor) : Prop where
  bytes : source.cursor.bytes = file
  whole : source.brokenFrom = none
  known : source.endUnknown = false

variable {source : FaultyCursor} {cursor : Cursor}

theorem Of.with (of : Of file source) (bytes : cursor.bytes = file) :
    Of file { source with cursor } := ⟨bytes, of.whole, of.known⟩

/-- What settles in the cursor settles. -/
theorem Of.onCursor {α : Type} {op : SourceM Cursor α} {good : α → Nat → Prop}
    (of : Of file source) (settled : Settled (Cursor.Of file) source.cursor.position good
      (op source.cursor)) :
    Settled (Of file) source.cursor.position good (onCursor op source) := by
  unfold FaultyCursor.onCursor
  generalize op source.cursor = result at settled
  cases settled with
  | ok kept fine => exact .ok (of.with kept) fine
  | error kept same => exact .error (of.with kept) same

theorem quota_le (source : FaultyCursor) (limit : Nat) : source.quota limit ≤ limit := by
  have chunk : (source.chunk.map (min limit)).getD limit ≤ limit := by
    cases source.chunk with
    | none => exact Nat.le_refl _
    | some size => exact Nat.min_le_left _ _
  unfold quota
  cases source.brokenFrom with
  | none => exact chunk
  | some first => exact Nat.le_trans (Nat.min_le_left _ _) chunk

theorem seek_settles (target : SeekTarget) (of : Of file source) :
    Settled (Of file) source.cursor.position (fun position there =>
      position = there ∧ (there : Int) = target.place file.size source.cursor.position)
      (seek target source) := by
  have result : seek target source = .error (.seek .noEnd) source
      ∨ seek target source = FaultyCursor.onCursor (Cursor.seek target) source := by
    unfold seek
    split
    · exact .inl rfl
    · exact .inr rfl
  obtain refused | sought := result
  · rw [refused]
    exact .error of rfl
  · rw [sought]
    exact of.onCursor (Cursor.seek_settles target of.bytes)

theorem Of.atEnd (of : Of file source) :
    ByteSource.atEnd source = .ok (decide (file.size ≤ ByteSource.position source)) := by
  show (if source.endUnknown then _ else Except.ok source.cursor.atEnd) = _
  rw [of.known, ← of.bytes]
  rfl

/-- **Cursors without faults are faithful** to their bytes. -/
theorem faithful (file : Bytes) : Faithful file (Of file) where
  atEnd _ of := of.atEnd
  askEnd source of := by
    refine ⟨source, ?_, of, rfl⟩
    show ByteSource.lookForEnd source = _
    unfold ByteSource.lookForEnd
    rw [of.atEnd]
  nextOrZero source of := by
    have read : source.nextOrZero
        = (source.cursor.nextOrZero.1, { source with cursor := source.cursor.nextOrZero.2 }) := by
      unfold nextOrZero
      rw [touchesFault_of_sound of.whole]
      rfl
    obtain rfl := of.bytes
    show Of _ source.nextOrZero.2
      ∧ Served _ 1 _ #[source.nextOrZero.1] source.nextOrZero.2.cursor.position
    rw [read]
    exact ⟨of.with source.cursor.bytes_nextOrZero, source.cursor.served_nextOrZero⟩
  takeOrZeros count source of := by
    have read : source.takeOrZeros count = ((source.cursor.takeOrZeros count).1,
        { source with cursor := (source.cursor.takeOrZeros count).2 }) := by
      unfold takeOrZeros
      rw [touchesFault_of_sound of.whole]
      rfl
    obtain rfl := of.bytes
    show Of _ (source.takeOrZeros count).2 ∧ Served _ count _ (source.takeOrZeros count).1
      (source.takeOrZeros count).2.cursor.position
    rw [read]
    exact ⟨of.with (source.cursor.bytes_takeOrZeros count), source.cursor.served_takeOrZeros count⟩
  take count source of := by
    show Settled _ _ _ (take count source)
    unfold take
    rw [touchesFault_of_sound of.whole]
    exact of.onCursor (Cursor.take_settles count of.bytes)
  takeUpTo limit source of := by
    show Settled _ _ _ (takeUpTo limit source)
    unfold takeUpTo
    rw [touchesFault_of_sound of.whole]
    refine of.onCursor ((Cursor.takeUpTo_settles _ of.bytes).mono fun bytes there fine => ?_)
    exact ⟨fine.1, Nat.le_trans fine.2 (Nat.add_le_add_left (source.quota_le limit) _)⟩
  seek target _ of := seek_settles target of
  seek_start position source _ := by
    refine ⟨{ source with cursor := { source.cursor with position } }, ?_⟩
    rfl

end FaultyCursor

namespace ByteStream

/-- Streams of a file. -/
def Of (file : Bytes) (stream : ByteStream) : Prop := stream.cursor.bytes = file

variable {stream : ByteStream}

theorem le_position_exhaust (stream : ByteStream) :
    stream.cursor.bytes.size ≤ stream.exhaust.cursor.position := by
  unfold exhaust
  cases stream.buffering with
  | direct => exact Nat.le_max_right _ _
  | buffered => exact Nat.le_refl _
  | bufferedUnbounded => exact Nat.le_max_right _ _

theorem bytes_exhaust (stream : ByteStream) :
    stream.exhaust.cursor.bytes = stream.cursor.bytes := by
  unfold exhaust
  cases stream.buffering <;> rfl

theorem eq_of_offsetFrom {base position : Nat} {offset : Int}
    (reached : offsetFrom base offset = .ok position) : (position : Int) = base + offset := by
  unfold offsetFrom at reached
  split at reached
  · cases reached
  · next inside =>
    cases reached
    exact Int.toNat_of_nonneg (by omega)

theorem eq_of_locate {target : SeekTarget} {position : Nat}
    (located : stream.locate target = .ok position) :
    (position : Int) = target.place stream.cursor.bytes.size stream.cursor.position := by
  cases target with
  | start position =>
    cases located
    rfl
  | fromEnd offset =>
    by_cases bounded : stream.buffering = .bufferedUnbounded
    · rw [show stream.locate (.fromEnd offset) = .error (.stream .noEnd) from if_pos bounded]
        at located
      nomatch located
    · rw [locate_fromEnd bounded] at located
      exact eq_of_offsetFrom located
  | current offset => exact eq_of_offsetFrom located

/-- **Streams are faithful** to their bytes. -/
theorem faithful (file : Bytes) : Faithful file (Of file) where
  atEnd := by
    rintro stream rfl
    rfl
  askEnd := by
    rintro stream rfl
    exact ⟨stream, rfl, rfl, rfl⟩
  nextOrZero := by
    rintro stream rfl
    show Of _ stream.nextOrZero.2
      ∧ Served _ 1 _ #[stream.nextOrZero.1] stream.nextOrZero.2.cursor.position
    unfold nextOrZero
    cases there : stream.cursor.bytes[stream.cursor.position]? with
    | some byte => exact ⟨rfl, .byte there⟩
    | none =>
      have beyond := Array.getElem?_eq_none_iff.mp there
      cases stream.buffering with
      | direct => exact ⟨rfl, .zero there (Nat.le_refl _)⟩
      | buffered => exact ⟨rfl, .zero there beyond⟩
      | bufferedUnbounded => exact ⟨rfl, .zero there beyond⟩
  takeOrZeros := by
    rintro count stream rfl
    show Of _ (stream.takeOrZeros count).2
      ∧ Served _ count _ (stream.takeOrZeros count).1 (stream.takeOrZeros count).2.cursor.position
    unfold takeOrZeros
    by_cases enough : count ≤ stream.cursor.remaining
    · rw [if_pos enough]
      exact ⟨rfl, .whole enough⟩
    · rw [if_neg enough]
      exact ⟨stream.bytes_exhaust, .short (Nat.lt_of_not_le enough) stream.le_position_exhaust⟩
  take := by
    rintro count stream rfl
    show Settled _ _ _ (take count stream)
    unfold take
    by_cases enough : count ≤ stream.cursor.remaining
    · rw [if_pos enough]
      exact .ok rfl ⟨enough, rfl, rfl⟩
    · rw [if_neg enough]
      exact .error rfl rfl
  takeUpTo := by
    rintro limit stream rfl
    refine .ok rfl ⟨(stream.cursor.peek_min_remaining limit).symm, ?_⟩
    exact Nat.add_le_add_left (Nat.min_le_left _ _) _
  seek := by
    rintro target stream rfl
    show Settled _ _ _ (seek target stream)
    unfold seek
    cases located : stream.locate target with
    | ok position => exact .ok rfl ⟨rfl, eq_of_locate located⟩
    | error err => exact .error rfl rfl
  seek_start _ _ _ := ⟨_, rfl⟩

end ByteStream

end WpgRaster
