import WpgRaster.Proofs.Source.Handles

/-!
# Buffered handles

A buffered handle is a buffered stream, if its buffer holds all the bytes
(`BufferedHandle.interchanges`). Then the buffer has either nothing or all that the stream
has left, and the handle below is where the stream is or at the end (`Shows`). Nobody notices
which of the two it is: every operation preserves that it is one of them, and answers what
the stream answers.
-/

namespace WpgRaster

namespace BufferedHandle

/-- **A handle and the buffered stream that it is.** Either nothing was read ahead, or all
that the stream has left. -/
structure Shows (handle : BufferedHandle) (stream : ByteStream) : Prop where
  /-- The stream has a buffer. -/
  buffered : stream.buffering = .buffered
  /-- All bytes fit into it. -/
  small : stream.cursor.bytes.size ≤ capacity
  /-- The position is a word. -/
  word : stream.cursor.position < Size.limit
  /-- The handle below is where the stream is, or at the end behind what was read ahead. -/
  ahead : (handle.ahead = #[] ∧ handle.inner.cursor = stream.cursor)
    ∨ (handle.ahead.toList = stream.cursor.rest
      ∧ stream.cursor.position ≤ stream.cursor.bytes.size
      ∧ handle.inner.cursor = { stream.cursor with position := stream.cursor.bytes.size })

namespace Shows

variable {handle : BufferedHandle} {stream : ByteStream}

/-- The handle below has the bytes of the stream. -/
theorem bytes (shows : Shows handle stream) :
    handle.inner.cursor.bytes = stream.cursor.bytes := by
  obtain ⟨-, same⟩ | ⟨-, -, same⟩ := shows.ahead
  · rw [same]
  · rw [same]

/-- The handle below is in front by what was read ahead. -/
theorem inner_position (shows : Shows handle stream) :
    handle.inner.cursor.position = stream.cursor.position + handle.ahead.size := by
  obtain ⟨none, same⟩ | ⟨all, within, same⟩ := shows.ahead
  · rw [none, same]
    rfl
  · have length := stream.cursor.length_rest
    rw [← all, Array.length_toList] at length
    unfold Cursor.remaining at length
    rw [same, length]
    dsimp only
    omega

/-- So the handle is where the stream is. -/
theorem tell_eq (shows : Shows handle stream) : handle.tell = stream.cursor.position := by
  unfold tell
  rw [shows.inner_position, Nat.add_sub_cancel]

/-- What is ahead is left. -/
theorem size_ahead_le (shows : Shows handle stream) :
    handle.ahead.size ≤ stream.cursor.remaining := by
  obtain ⟨none, -⟩ | ⟨all, -, -⟩ := shows.ahead
  · rw [none]
    exact Nat.zero_le _
  · have length := stream.cursor.length_rest
    rw [← all, Array.length_toList] at length
    exact Nat.le_of_eq length

/-- To read what is left leads no further than to the end. -/
theorem word_advance (shows : Shows handle stream) (count : Nat) :
    stream.cursor.position + min count stream.cursor.remaining < Size.limit := by
  have small := shows.small
  have word := shows.word
  have lt : capacity < Size.limit := by decide
  unfold Cursor.remaining
  omega

/-- With nothing ahead, the handle below is where the stream is. -/
theorem inner_eq (shows : Shows handle stream) (none : handle.ahead = #[]) :
    handle.inner.cursor = stream.cursor := by
  obtain ⟨-, same⟩ | ⟨all, within, same⟩ := shows.ahead
  · exact same
  · have length := stream.cursor.length_rest
    rw [← all, none] at length
    have ended : stream.cursor.position = stream.cursor.bytes.size := by
      unfold Cursor.remaining at length
      have zero : (#[] : Bytes).toList.length = 0 := rfl
      omega
    rw [same, ← ended]

/-- **A filled buffer has all that the stream has left.** -/
theorem fill (shows : Shows handle stream) :
    Shows handle.fill stream ∧ handle.fill.ahead.toList = stream.cursor.rest := by
  by_cases none : handle.ahead = #[]
  · have inner := shows.inner_eq none
    have filled : handle.fill = { inner := ⟨stream.cursor.advance
        (min capacity stream.cursor.remaining)⟩, ahead := stream.cursor.peek capacity } := by
      unfold BufferedHandle.fill
      rw [if_pos (Array.isEmpty_iff.mpr none)]
      unfold FileHandle.read
      rw [inner]
    have length := stream.cursor.length_rest
    have small := shows.small
    have all : (stream.cursor.peek capacity).toList = stream.cursor.rest := by
      rw [stream.cursor.toList_peek]
      refine List.take_of_length_le ?_
      unfold Cursor.remaining at length
      omega
    rw [filled]
    refine ⟨⟨shows.buffered, small, shows.word, ?_⟩, all⟩
    dsimp only
    by_cases within : stream.cursor.position ≤ stream.cursor.bytes.size
    · refine .inr ⟨all, within, congrArg (Cursor.mk stream.cursor.bytes) ?_⟩
      unfold Cursor.remaining
      omega
    · -- beyond the end there is nothing to read ahead
      have ended : stream.cursor.remaining = 0 := by
        unfold Cursor.remaining
        omega
      refine .inl ⟨?_, ?_⟩
      · rw [ended] at length
        exact Array.toList_eq_nil_iff.mp (all.trans (List.eq_nil_of_length_eq_zero length))
      · rw [ended, Nat.min_zero, stream.cursor.advance_zero]
  · have kept : handle.fill = handle := by
      unfold BufferedHandle.fill
      rw [if_neg (by rwa [Array.isEmpty_iff])]
    rw [kept]
    exact ⟨shows, (shows.ahead.resolve_left fun empty => none empty.1).1⟩

/-- What is consumed of a filled buffer is consumed of the stream. -/
theorem consume (shows : Shows handle stream) (all : handle.ahead.toList = stream.cursor.rest)
    (count : Nat) :
    handle.ahead.extract 0 count = stream.cursor.peek count
      ∧ Shows (handle.consume count) (stream.advance (min count stream.cursor.remaining)) := by
  have length := stream.cursor.length_rest
  refine ⟨?_, shows.buffered, shows.small, shows.word_advance count, ?_⟩
  · apply Array.toList_inj.mp
    rw [stream.cursor.toList_peek, ← all]
    simp only [Array.toList_extract, List.extract_eq_take_drop, Nat.sub_zero, List.drop_zero]
  · obtain ⟨none, same⟩ | ⟨-, within, same⟩ := shows.ahead
    · rw [← all, none] at length
      have ended : stream.cursor.remaining = 0 := length.symm
      refine .inl ⟨?_, ?_⟩
      · show handle.ahead.extract count = #[]
        rw [none, Array.extract_empty]
      · show handle.inner.cursor = stream.cursor.advance (min count stream.cursor.remaining)
        rw [ended, Nat.min_zero, stream.cursor.advance_zero, same]
    · refine .inr ⟨?_, ?_, same⟩
      · have dropped : (handle.ahead.extract count).toList = stream.cursor.rest.drop count := by
          rw [← all, Array.toList_extract, List.extract_eq_take_drop]
          exact List.take_of_length_le (Nat.le_of_eq (List.length_drop ..))
        show (handle.ahead.extract count).toList
          = (stream.cursor.advance (min count stream.cursor.remaining)).rest
        rw [dropped, stream.cursor.rest_advance, ← length]
        simp
      · show stream.cursor.position + min count stream.cursor.remaining ≤ stream.cursor.bytes.size
        unfold Cursor.remaining
        omega

/-- **A read of the handle is a read of the stream.** -/
theorem read (shows : Shows handle stream) (count : Nat) :
    (handle.read count).1 = stream.cursor.peek count
      ∧ Shows (handle.read count).2 (stream.advance (min count stream.cursor.remaining)) := by
  unfold BufferedHandle.read
  by_cases direct : handle.ahead.isEmpty ∧ capacity ≤ count
  · -- a large read goes past the empty buffer, which stays empty
    rw [if_pos direct]
    have none := Array.isEmpty_iff.mp direct.1
    have inner := shows.inner_eq none
    unfold FileHandle.read
    rw [inner]
    exact ⟨rfl, shows.buffered, shows.small, shows.word_advance count, .inl ⟨none, rfl⟩⟩
  · rw [if_neg direct]
    obtain ⟨filled, all⟩ := shows.fill
    exact filled.consume all count

/-- **Reads add up**, to as many bytes as are asked for or to all that are left. -/
theorem readRounds (shows : Shows handle stream) (fuel need : Nat) (enough : need ≤ fuel)
    (bytes : Bytes) :
    (handle.readRounds fuel need bytes).1 = bytes ++ stream.cursor.peek need
      ∧ Shows (handle.readRounds fuel need bytes).2
        (stream.advance (min need stream.cursor.remaining)) := by
  induction fuel generalizing handle stream need bytes with
  | zero =>
    obtain rfl : need = 0 := Nat.eq_zero_of_le_zero enough
    rw [stream.cursor.peek_zero, Array.append_empty, Nat.zero_min]
    exact ⟨rfl, shows⟩
  | succ fuel ih =>
    unfold BufferedHandle.readRounds
    by_cases none : need = 0
    · rw [if_pos none, none, stream.cursor.peek_zero, Array.append_empty, Nat.zero_min]
      exact ⟨rfl, shows⟩
    obtain ⟨chunk, behind⟩ := shows.read need
    have size : (handle.read need).1.size = min need stream.cursor.remaining := by
      rw [chunk, stream.cursor.size_peek]
    rw [if_neg none]
    dsimp only
    by_cases nothing : (handle.read need).1.isEmpty
    · -- an empty read means that nothing is left
      have empty := Array.isEmpty_iff.mp nothing
      rw [if_pos nothing, ← chunk, empty, Array.append_empty]
      exact ⟨rfl, behind⟩
    · obtain ⟨gathered, last⟩ := ih behind (need - min need stream.cursor.remaining)
        (by rw [Array.isEmpty_iff_size_eq_zero, size] at nothing; omega)
        (bytes ++ (handle.read need).1)
      -- a first read of all that is there leaves nothing to the others
      have more : stream.cursor.peek (min need stream.cursor.remaining)
          ++ (stream.cursor.advance (min need stream.cursor.remaining)).peek
            (need - min need stream.cursor.remaining) = stream.cursor.peek need := by
        rw [stream.cursor.peek_append_peek]
        congr 1
        omega
      rw [stream.cursor.peek_min_remaining] at more
      rw [if_neg nothing, size]
      refine ⟨?_, ?_⟩
      · rw [gathered, chunk, Array.append_assoc]
        exact congrArg (bytes ++ ·) more
      · rwa [show min (need - min need stream.cursor.remaining)
            (stream.advance (min need stream.cursor.remaining)).cursor.remaining = 0 by
          show min _ (stream.cursor.advance _).remaining = 0
          rw [stream.cursor.remaining_advance]
          omega] at last

/-! ### Exact reads -/

/-- Bytes that are there are read. -/
theorem readExact_of_le (shows : Shows handle stream) {count : Nat}
    (enough : count ≤ stream.cursor.remaining) :
    ∃ behind, Handle.readExact count handle = .ok (stream.cursor.peek count) behind
      ∧ Shows behind (stream.advance count) := by
  show ∃ behind, readExact count handle = _ ∧ _
  unfold readExact
  by_cases there : count ≤ handle.ahead.size
  · rw [if_pos there]
    by_cases zero : count = 0
    · rw [zero, stream.cursor.peek_zero]
      refine ⟨handle, ?_, shows⟩
      unfold BufferedHandle.consume
      rw [Array.extract_zero, Array.extract_size]
    · have all := (shows.ahead.resolve_left fun none => by
        rw [none.1] at there
        exact zero (Nat.eq_zero_of_le_zero there)).1
      obtain ⟨bytes, behind⟩ := shows.consume all count
      rw [bytes]
      rw [Nat.min_eq_left enough] at behind
      exact ⟨_, rfl, behind⟩
  · obtain ⟨bytes, behind⟩ := shows.readRounds count count (Nat.le_refl _) #[]
    rw [Array.empty_append] at bytes
    rw [Nat.min_eq_left enough] at behind
    have full : ¬ (handle.readRounds count count #[]).1.size < count := by
      rw [bytes, stream.cursor.size_peek]
      omega
    rw [if_neg there]
    dsimp only
    rw [if_neg full, bytes]
    exact ⟨_, rfl, behind⟩

/-- Bytes that are not there cannot be read, and what is left is gone. -/
theorem readExact_of_lt (shows : Shows handle stream) {count : Nat}
    (few : stream.cursor.remaining < count) :
    ∃ behind, Handle.readExact count handle = .error (.stream .unfilled) behind
      ∧ Shows behind (stream.advance stream.cursor.remaining) := by
  show ∃ behind, readExact count handle = _ ∧ _
  obtain ⟨bytes, behind⟩ := shows.readRounds count count (Nat.le_refl _) #[]
  rw [Array.empty_append] at bytes
  rw [Nat.min_eq_right (Nat.le_of_lt few)] at behind
  have short : (handle.readRounds count count #[]).1.size < count := by
    rw [bytes, stream.cursor.size_peek]
    omega
  -- the buffer has no more than is left, so it does not have enough either
  have ahead := shows.size_ahead_le
  unfold readExact
  rw [if_neg (by omega)]
  dsimp only
  rw [if_pos short]
  exact ⟨_, rfl, behind⟩

/-! ### Seeks -/

/-- A seek of the handle below to where the stream is moved to drops what was read ahead. -/
theorem seekInner_corresponds (shows : Shows handle stream) {target target' : SeekTarget}
    (located : handle.inner.locate target = stream.locate target')
    (words : ∀ position, stream.locate target' = .ok position → position < Size.limit) :
    Corresponds Shows (seekInner target handle) (stream.seek target') := by
  unfold seekInner FileHandle.seek ByteStream.seek
  rw [located]
  cases place : stream.locate target' with
  | ok position =>
    refine .ok ⟨shows.buffered, shows.small, words position place, .inl ⟨rfl, ?_⟩⟩
    exact congrArg (Cursor.mk · position) shows.bytes
  | error err => exact .error shows

/-- **Seeks lead to the same place.** -/
theorem seek_corresponds (shows : Shows handle stream) {target : SeekTarget}
    (word : target.IsWord) : Corresponds Shows (seek target handle) (stream.seek target) := by
  have words : ∀ position, stream.locate target = .ok position → position < Size.limit :=
    fun _ => ByteStream.locate_lt word
  unfold seek
  cases target with
  | start position => exact shows.seekInner_corresponds rfl words
  | fromEnd offset =>
    have bounded : stream.buffering ≠ .bufferedUnbounded := by
      rw [shows.buffered]
      nofun
    refine shows.seekInner_corresponds ?_ words
    rw [ByteStream.locate_fromEnd bounded, ← shows.bytes]
    rfl
  | current offset =>
    have front := shows.inner_position
    dsimp only
    by_cases near : -Size.signedLimit ≤ offset - handle.ahead.size
    · rw [if_pos near]
      refine shows.seekInner_corresponds (ByteStream.offsetFrom_congr ?_) words
      omega
    · -- the handle below is moved back to where the stream is, and from there on
      have back : handle.inner.locate (.current (-handle.ahead.size))
          = .ok stream.cursor.position := by
        have word := shows.word
        have same : handle.inner.locate (.current (-handle.ahead.size))
            = ByteStream.offsetFrom stream.cursor.position 0 :=
          ByteStream.offsetFrom_congr (by omega)
        rw [same]
        unfold ByteStream.offsetFrom
        rw [if_neg (by omega), Int.add_zero, Int.toNat_natCast]
      have moved : seekInner (.current (-handle.ahead.size)) handle
          = .ok stream.cursor.position { inner := ⟨stream.cursor⟩ } := by
        unfold seekInner FileHandle.seek
        rw [back]
        dsimp only
        rw [shows.bytes]
      have dropped : Shows { inner := ⟨stream.cursor⟩ } stream :=
        ⟨shows.buffered, shows.small, shows.word, .inl ⟨rfl, rfl⟩⟩
      rw [if_neg near, bind_of_ok moved]
      exact dropped.seekInner_corresponds rfl words

/-- A handle may be moved to any word. -/
theorem seek_start (shows : Shows handle stream) {position : Nat} (word : position < Size.limit) :
    ∃ back, Handle.seek (.start position) handle = .ok position back
      ∧ Shows back (stream.moveTo position) :=
  ⟨{ inner := ⟨{ handle.inner.cursor with position }⟩ }, rfl, shows.buffered, shows.small,
    word, .inl ⟨rfl, congrArg (Cursor.mk · position) shows.bytes⟩⟩

/-- It may be moved to its end. -/
theorem seek_end (shows : Shows handle stream) :
    ∃ last, seek (.fromEnd 0) handle = .ok stream.cursor.bytes.size last
      ∧ Shows last stream.exhaust := by
  have small := shows.small
  have lt : capacity < Size.limit := by decide
  have located : handle.inner.locate (.fromEnd 0) = .ok stream.cursor.bytes.size := by
    show ByteStream.offsetFrom _ _ = _
    unfold ByteStream.offsetFrom
    rw [shows.bytes, if_neg (by omega), Int.add_zero, Int.toNat_natCast]
  have exhausted : stream.exhaust = stream.moveTo stream.cursor.bytes.size := by
    unfold ByteStream.exhaust
    rw [shows.buffered]
  refine ⟨{ inner := ⟨{ handle.inner.cursor with position := stream.cursor.bytes.size }⟩ }, ?_, ?_⟩
  · show seekInner (.fromEnd 0) handle = _
    unfold seekInner FileHandle.seek
    rw [located]
  · rw [exhausted]
    refine ⟨shows.buffered, small, Nat.lt_of_le_of_lt small lt, .inl ⟨rfl, ?_⟩⟩
    exact congrArg (Cursor.mk · stream.cursor.bytes.size) shows.bytes

/-! ### All that can be asked for -/

theorem takeOrRestore_of_le (shows : Shows handle stream) {count : Nat}
    (enough : count ≤ stream.cursor.remaining) :
    ∃ behind, Handle.takeOrRestore count handle = .ok (stream.cursor.peek count) behind
      ∧ Shows behind (stream.advance count) := by
  obtain ⟨behind, ran, there⟩ := shows.readExact_of_le enough
  exact ⟨behind, Handle.takeOrRestore_of_ok ran, there⟩

/-- **A failed read that is restored shows nothing**, though bytes may be ahead no longer. -/
theorem takeOrRestore_of_lt (shows : Shows handle stream) {count : Nat}
    (few : stream.cursor.remaining < count) :
    ∃ back, Handle.takeOrRestore count handle = .error (.stream .unfilled) back
      ∧ Shows back stream := by
  obtain ⟨moved, failed, beyond⟩ := shows.readExact_of_lt few
  obtain ⟨back, restored, there⟩ := beyond.seek_start shows.word
  have place : Handle.tell handle = stream.cursor.position := shows.tell_eq
  rw [← place] at restored
  exact ⟨back, Handle.takeOrRestore_of_error failed restored, there⟩

theorem takeOrZeros (shows : Shows handle stream) (count : Nat) :
    (handle.takeOrZeros count).1 = (stream.takeOrZeros count).1
      ∧ Shows (handle.takeOrZeros count).2 (stream.takeOrZeros count).2 := by
  unfold BufferedHandle.takeOrZeros ByteStream.takeOrZeros
  by_cases enough : count ≤ stream.cursor.remaining
  · obtain ⟨behind, ran, there⟩ := shows.takeOrRestore_of_le enough
    rw [ran, if_pos enough]
    exact ⟨rfl, there⟩
  · obtain ⟨back, failed, there⟩ := shows.takeOrRestore_of_lt (Nat.lt_of_not_le enough)
    obtain ⟨last, sought, ended⟩ := there.seek_end
    rw [failed, if_neg enough]
    dsimp only
    rw [sought]
    exact ⟨rfl, ended⟩

theorem nextOrZero (shows : Shows handle stream) :
    (Handle.nextOrZero handle).1 = stream.nextOrZero.1
      ∧ Shows (Handle.nextOrZero handle).2 stream.nextOrZero.2 := by
  by_cases left : 0 < stream.cursor.remaining
  · obtain ⟨behind, ran, there⟩ := shows.readExact_of_le left
    rw [Handle.nextOrZero_of_ok ran, ByteStream.nextOrZero_of_lt left]
    exact ⟨rfl, there⟩
  · have none : stream.cursor.remaining = 0 := Nat.eq_zero_of_not_pos left
    have few : stream.cursor.remaining < 1 := Nat.lt_one_iff.mpr none
    obtain ⟨behind, failed, there⟩ := shows.readExact_of_lt few
    rw [Handle.nextOrZero_of_error failed, ByteStream.nextOrZero_of_remaining_eq_zero none,
      shows.buffered]
    rw [none] at there
    exact ⟨rfl, there⟩

/-- A buffer that cannot be filled means that this is the end. -/
theorem isEmpty_fill (shows : Shows handle stream) :
    handle.fill.ahead.isEmpty = stream.cursor.atEnd := by
  have all := congrArg List.length shows.fill.2
  rw [Array.length_toList, stream.cursor.length_rest] at all
  rw [Bool.eq_iff_iff, Array.isEmpty_iff_size_eq_zero, stream.cursor.atEnd_iff, all]

end Shows

/-- **A buffered handle is a buffered stream**, if its buffer holds all the bytes. -/
theorem interchanges : Interchanges Eq (fun target _ => target.IsWord) Shows where
  refl _ := rfl
  position _ _ shows := shows.tell_eq
  atEnd _ _ shows := congrArg Except.ok shows.isEmpty_fill
  askEnd := interchange_matches fun handle stream shows => by
    show Compared _ _ (.ok handle.fill.ahead.isEmpty handle.fill) (.ok stream.cursor.atEnd stream)
    rw [shows.isEmpty_fill]
    exact .ok shows.fill.1
  nextOrZero := interchange_reads fun _ _ shows => shows.nextOrZero
  takeOrZeros count := interchange_reads fun _ _ shows => shows.takeOrZeros count
  take count := interchange_matches fun handle stream shows => by
    show Compared _ _ (Handle.takeOrRestore count handle) (stream.take count)
    unfold ByteStream.take
    by_cases enough : count ≤ stream.cursor.remaining
    · obtain ⟨behind, ran, there⟩ := shows.takeOrRestore_of_le enough
      rw [ran, if_pos enough]
      exact .ok there
    · obtain ⟨back, failed, there⟩ := shows.takeOrRestore_of_lt (Nat.lt_of_not_le enough)
      rw [failed, if_neg enough]
      exact .error rfl there
  takeUpTo limit := interchange_matches fun handle stream shows => by
    obtain ⟨bytes, behind⟩ := shows.read limit
    show Compared _ _ (.ok (handle.read limit).1 (handle.read limit).2)
      (.ok (stream.cursor.peek limit) _)
    rw [bytes]
    exact .ok behind
  seek _ _ _ shows word := (shows.seek_corresponds word).compared
  length := by
    refine (ByteSource.length_simulates (fun _ _ shows => shows.tell_eq) ?_ ?_).compares
    · exact fun _ _ shows => shows.seek_corresponds trivial
    · exact fun _ _ shows _ _ shows' => shows'.seek_corresponds shows.word

end BufferedHandle

end WpgRaster
