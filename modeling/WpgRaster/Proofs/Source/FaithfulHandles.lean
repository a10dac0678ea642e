import WpgRaster.Proofs.Source.FaithfulCursors

/-!
# Handles are faithful

The reads of a handle are built on exact reads that consume what there is before they fail, and
on seeks that may be refused (`HonestHandle`). A source that is made of a handle is faithful
nevertheless, since it is moved back behind a failed read.

A buffer makes no difference. What was read ahead are the bytes of the file between the position
of the handle and the position of the handle below (`BufferedHandle.Of`), and there may be any
number of them. To read is to consume some of these, after others were put there if there are
none. A seek drops them, and so it is made where the handle seems to be and not where the handle
below is. A handle that does not know its end is drained instead of being moved there, which
takes no more rounds than there are bytes.
-/

namespace WpgRaster

variable {file : Bytes}

/-! ## What sources are made of -/

/-- **A handle of a file**, as long as it is sound: exact reads read the file, and absolute
positions are never refused. -/
structure HonestHandle (file : Bytes) {ρ : Type} [Handle ρ] (sound : ρ → Prop) : Prop where
  /-- Bytes that are there are read. -/
  readExact_of_le : ∀ count handle, sound handle → count ≤ file.size - Handle.tell handle →
    ∃ moved, Handle.readExact count handle
        = .ok (file.extract (Handle.tell handle) (Handle.tell handle + count)) moved
      ∧ sound moved ∧ Handle.tell moved = Handle.tell handle + count
  /-- If there are too few, the handle is at its end. -/
  readExact_of_lt : ∀ count handle, sound handle → file.size - Handle.tell handle < count →
    ∃ err moved, Handle.readExact count handle = .error err moved
      ∧ sound moved ∧ file.size ≤ Handle.tell moved
  /-- The handle can be moved to where it was. -/
  seek_start : ∀ position handle, sound handle →
    ∃ back, Handle.seek (.start position) handle = .ok position back
      ∧ sound back ∧ Handle.tell back = position

namespace HonestHandle

variable {ρ : Type} [Handle ρ] {sound : ρ → Prop} {handle : ρ} {count : Nat}
  (honest : HonestHandle file sound)

include honest

theorem takeOrRestore_of_le (kept : sound handle)
    (enough : count ≤ file.size - Handle.tell handle) :
    ∃ moved, Handle.takeOrRestore count handle
        = .ok (file.extract (Handle.tell handle) (Handle.tell handle + count)) moved
      ∧ sound moved ∧ Handle.tell moved = Handle.tell handle + count := by
  obtain ⟨moved, ran, there⟩ := honest.readExact_of_le count handle kept enough
  exact ⟨moved, Handle.takeOrRestore_of_ok ran, there⟩

/-- **A failed read is undone.** -/
theorem takeOrRestore_of_lt (kept : sound handle)
    (few : file.size - Handle.tell handle < count) :
    ∃ err back, Handle.takeOrRestore count handle = .error err back
      ∧ sound back ∧ Handle.tell back = Handle.tell handle := by
  obtain ⟨err, moved, failed, kept', -⟩ := honest.readExact_of_lt count handle kept few
  obtain ⟨back, restored, there⟩ := honest.seek_start (Handle.tell handle) moved kept'
  exact ⟨err, back, Handle.takeOrRestore_of_error failed restored, there⟩

theorem served_nextOrZero (kept : sound handle) :
    sound (Handle.nextOrZero handle).2
      ∧ Served file 1 (Handle.tell handle) #[(Handle.nextOrZero handle).1]
        (Handle.tell (Handle.nextOrZero handle).2) := by
  by_cases enough : 1 ≤ file.size - Handle.tell handle
  · obtain ⟨moved, ran, kept', there⟩ := honest.readExact_of_le 1 handle kept enough
    have inside : Handle.tell handle < file.size := by omega
    have first : (file.extract (Handle.tell handle) (Handle.tell handle + 1))[0]?.getD 0
        = file[Handle.tell handle] := by
      rw [Array.getElem?_extract, if_pos (by omega), Nat.add_zero,
        Array.getElem?_eq_getElem inside]
      rfl
    rw [Handle.nextOrZero_of_ok ran, first, there]
    exact ⟨kept', .byte (Array.getElem?_eq_getElem inside)⟩
  · obtain ⟨err, moved, failed, kept', ended⟩ :=
      honest.readExact_of_lt 1 handle kept (Nat.lt_of_not_le enough)
    rw [Handle.nextOrZero_of_error failed]
    exact ⟨kept', .short (Nat.lt_of_not_le enough) ended⟩

/-- **A read is served** that answers what could be read, and goes to the end if it could not. -/
theorem served_takeOrZeros (kept : sound handle) {read : Bytes × ρ}
    (whole : ∀ bytes moved, Handle.takeOrRestore count handle = .ok bytes moved →
      read = (bytes, moved))
    (short : ∀ err back, Handle.takeOrRestore count handle = .error err back → sound back →
      read.1 = Array.replicate count 0 ∧ sound read.2 ∧ file.size ≤ Handle.tell read.2) :
    sound read.2 ∧ Served file count (Handle.tell handle) read.1 (Handle.tell read.2) := by
  by_cases enough : count ≤ file.size - Handle.tell handle
  · obtain ⟨moved, ran, kept', there⟩ := honest.takeOrRestore_of_le kept enough
    rw [whole _ _ ran, there]
    exact ⟨kept', .whole enough⟩
  · have few := Nat.lt_of_not_le enough
    obtain ⟨err, back, failed, kept', -⟩ := honest.takeOrRestore_of_lt kept few
    obtain ⟨zeros, kept'', ended⟩ := short err back failed kept'
    rw [zeros]
    exact ⟨kept'', .short few ended⟩

/-- A source that stands where the handle does takes bytes as it should. -/
theorem take_settles [ByteSource ρ]
    (place : ∀ handle : ρ, ByteSource.position handle = Handle.tell handle) (count : Nat)
    (kept : sound handle) :
    Settled sound (ByteSource.position handle) (fun bytes there =>
      count ≤ file.size - ByteSource.position handle
        ∧ bytes = file.extract (ByteSource.position handle) there
        ∧ there = ByteSource.position handle + count)
      (Handle.takeOrRestore count handle) := by
  by_cases enough : count ≤ file.size - Handle.tell handle
  · obtain ⟨moved, ran, kept', there⟩ := honest.takeOrRestore_of_le kept enough
    rw [ran, place handle]
    refine .ok kept' ⟨enough, ?_, (place moved).trans there⟩
    rw [place moved, there]
  · obtain ⟨err, back, failed, kept', same⟩ :=
      honest.takeOrRestore_of_lt kept (Nat.lt_of_not_le enough)
    rw [failed, place handle]
    exact .error kept' ((place back).trans same)

end HonestHandle

/-! ## Straight from the bytes -/

namespace FileHandle

/-- Handles of a file. -/
def Of (file : Bytes) (handle : FileHandle) : Prop := handle.cursor.bytes = file

variable {handle : FileHandle}

theorem honest (file : Bytes) : HonestHandle file (Of file) where
  readExact_of_le := by
    rintro count handle rfl enough
    exact ⟨_, readExact_of_le enough, rfl, rfl⟩
  readExact_of_lt := by
    rintro count handle rfl few
    exact ⟨_, _, readExact_of_lt few, rfl, Nat.le_refl _⟩
  seek_start := by
    rintro position handle rfl
    exact ⟨_, rfl, rfl, rfl⟩

/-- A read brings as much as is there. -/
theorem read_eq (of : handle.Of file) (count : Nat) :
    handle.read count = (file.extract handle.cursor.position
        (handle.cursor.position + min count (file.size - handle.cursor.position)),
      ⟨handle.cursor.advance (min count (file.size - handle.cursor.position))⟩) := by
  obtain rfl : handle.cursor.bytes = file := of
  exact Prod.ext (handle.cursor.peek_min_remaining count).symm rfl

theorem eq_of_locate {target : SeekTarget} {position : Nat}
    (located : handle.locate target = .ok position) :
    (position : Int) = target.place handle.cursor.bytes.size handle.cursor.position := by
  cases target with
  | start position =>
    cases located
    rfl
  | fromEnd offset => exact ByteStream.eq_of_offsetFrom located
  | current offset => exact ByteStream.eq_of_offsetFrom located

/-- **File handles are faithful** to their bytes. -/
theorem faithful (file : Bytes) : Faithful file (Of file) where
  atEnd := by
    rintro handle rfl
    rfl
  askEnd := by
    rintro handle rfl
    exact ⟨handle, rfl, rfl, rfl⟩
  nextOrZero _ of := (honest file).served_nextOrZero of
  takeOrZeros count handle of := by
    show Of file (handle.takeOrZeros count).2 ∧ Served file count (Handle.tell handle)
      (handle.takeOrZeros count).1 (Handle.tell (handle.takeOrZeros count).2)
    unfold takeOrZeros
    refine (honest file).served_takeOrZeros of (fun bytes moved ran => by rw [ran]) ?_
    intro err back failed of'
    have bytes : back.cursor.bytes = file := of'
    rw [failed]
    refine ⟨rfl, of', ?_⟩
    rw [← bytes]
    exact Nat.le_max_right _ _
  take count _ of := (honest file).take_settles (fun _ => rfl) count of
  takeUpTo := by
    rintro limit handle rfl
    refine .ok rfl ⟨(handle.cursor.peek_min_remaining limit).symm, ?_⟩
    exact Nat.add_le_add_left (Nat.min_le_left _ _) _
  seek := by
    rintro target handle rfl
    show Settled _ _ _ (seek target handle)
    unfold seek
    cases located : handle.locate target with
    | ok position => exact .ok rfl ⟨rfl, eq_of_locate located⟩
    | error err => exact .error rfl rfl
  seek_start _ _ _ := ⟨_, rfl⟩

end FileHandle

/-! ## Through a buffer -/

namespace BufferedHandle

/-- **Handles of a file**: what was read ahead are the bytes behind the position. -/
structure Of (file : Bytes) (handle : BufferedHandle) : Prop where
  /-- The handle below is a handle of the file. -/
  bytes : handle.inner.cursor.bytes = file
  /-- It is behind what was read ahead. -/
  ahead : handle.ahead = file.extract handle.tell handle.inner.cursor.position

variable {handle : BufferedHandle}

/-- Handles of a file have read ahead as far as the handle below is. -/
theorem of_ahead {here there : Nat} (bytes : handle.inner.cursor.bytes = file)
    (position : handle.inner.cursor.position = there)
    (ahead : handle.ahead = file.extract here there) (le : here ≤ there)
    (within : there ≤ max here file.size) : Of file handle ∧ handle.tell = here := by
  have tell : handle.tell = here := by
    unfold tell
    rw [position, ahead, Array.size_extract]
    omega
  refine ⟨⟨bytes, ?_⟩, tell⟩
  rw [tell, position, ahead]

/-- The handle behind a seek, which has nothing ahead. -/
def reset (handle : BufferedHandle) (position : Nat) : BufferedHandle :=
  { inner := ⟨⟨handle.inner.cursor.bytes, position⟩⟩ }

theorem tell_reset (handle : BufferedHandle) (position : Nat) :
    (handle.reset position).tell = position := rfl

/-- At first nothing was read ahead. -/
theorem Of.ofBytes (file : Bytes) : Of file (.ofBytes file) where
  bytes := rfl
  ahead := (Array.extract_empty_of_stop_le_start (Nat.le_refl _)).symm

namespace Of

variable (of : Of file handle)

include of

theorem size_ahead : handle.ahead.size
    = min handle.inner.cursor.position file.size - handle.tell :=
  (congrArg Array.size of.ahead).trans Array.size_extract

/-- The handle below is in front by what was read ahead. -/
theorem tell_add : handle.tell + handle.ahead.size = handle.inner.cursor.position := by
  have size := of.size_ahead
  have place : handle.tell = handle.inner.cursor.position - handle.ahead.size := rfl
  omega

theorem reset (position : Nat) : Of file (handle.reset position) where
  bytes := of.bytes
  ahead := (Array.extract_empty_of_stop_le_start (Nat.le_refl _)).symm

/-- What is ahead is there. -/
theorem size_ahead_le : handle.ahead.size ≤ file.size - handle.tell := by
  have size := of.size_ahead
  omega

/-- **A buffer is filled** unless nothing is left. -/
theorem fill : Of file handle.fill ∧ handle.fill.tell = handle.tell
    ∧ (handle.fill.ahead.isEmpty ↔ file.size ≤ handle.tell) := by
  have place := of.tell_add
  unfold BufferedHandle.fill
  by_cases none : handle.ahead.isEmpty
  · rw [Array.isEmpty_iff_size_eq_zero] at none
    rw [none, Nat.add_zero] at place
    rw [if_pos (Array.isEmpty_iff_size_eq_zero.mpr none), FileHandle.read_eq of.bytes, ← place]
    refine and_assoc.mp ⟨of_ahead of.bytes (congrArg (· + _) place.symm) rfl
      (Nat.le_add_right _ _) (by omega), ?_⟩
    show (file.extract handle.tell _).isEmpty ↔ _
    have some : 0 < capacity := by decide
    rw [Array.isEmpty_iff_size_eq_zero, Array.size_extract]
    omega
  · have some : handle.ahead.size ≠ 0 := fun zero => none (Array.isEmpty_iff_size_eq_zero.mpr zero)
    have left := of.size_ahead_le
    rw [if_neg none]
    exact ⟨of, rfl, fun empty => absurd empty none, fun ended => by omega⟩

/-- **What is consumed** are the next bytes that are ahead. -/
theorem consume (count : Nat) :
    handle.ahead.extract 0 count
        = file.extract handle.tell (handle.tell + min count handle.ahead.size)
      ∧ Of file (handle.consume count)
      ∧ (handle.consume count).tell = handle.tell + min count handle.ahead.size := by
  have place := of.tell_add
  have left := of.size_ahead_le
  have cut : ∀ start stop, handle.ahead.extract start stop
      = file.extract (handle.tell + start)
        (min (handle.tell + stop) handle.inner.cursor.position) := by
    intro start stop
    refine (congrArg (fun bytes : Bytes => bytes.extract start stop) of.ahead).trans ?_
    rw [Array.extract_extract]
  refine ⟨?_, of_ahead of.bytes place.symm ?_ (by omega) (by omega)⟩
  · rw [cut, Nat.add_zero, ← place, Nat.add_min_add_left]
  · show handle.ahead.extract count handle.ahead.size = _
    rw [cut, place, Nat.min_self]
    by_cases enough : count ≤ handle.ahead.size
    · rw [Nat.min_eq_left enough]
    · rw [Array.extract_empty_of_stop_le_start (by omega),
        Array.extract_empty_of_stop_le_start (by omega)]

/-- **A read brings some of the next bytes**, none only if none are left or asked for. -/
theorem read (count : Nat) :
    ∃ got ≤ min count (file.size - handle.tell),
      (got = 0 → min count (file.size - handle.tell) = 0)
        ∧ (handle.read count).1 = file.extract handle.tell (handle.tell + got)
        ∧ Of file (handle.read count).2 ∧ (handle.read count).2.tell = handle.tell + got := by
  unfold BufferedHandle.read
  by_cases direct : handle.ahead.isEmpty ∧ capacity ≤ count
  · -- a large read goes past the empty buffer, which stays empty
    have empty : handle.ahead = #[] := Array.isEmpty_iff.mp direct.1
    have place := of.tell_add
    rw [empty, Array.size_empty, Nat.add_zero] at place
    rw [if_pos direct, FileHandle.read_eq of.bytes, ← place]
    refine ⟨_, Nat.le_refl _, id, rfl, of_ahead of.bytes (congrArg (· + _) place.symm) ?_
      (Nat.le_refl _) (Nat.le_max_left _ _)⟩
    rw [Array.extract_empty_of_stop_le_start (Nat.le_refl _)]
    exact empty
  · rw [if_neg direct]
    obtain ⟨filled, place, none⟩ := of.fill
    obtain ⟨bytes, of', there⟩ := filled.consume count
    have left := filled.size_ahead_le
    rw [place] at bytes there left
    rw [Array.isEmpty_iff_size_eq_zero] at none
    exact ⟨_, by omega, fun nothing => by omega, bytes, of', there⟩

omit of in
/-- No bytes were added. -/
theorem append_nothing (bytes : Bytes) (here : Nat) :
    bytes ++ file.extract here (here + 0) = bytes := by
  rw [Nat.add_zero, Array.extract_empty_of_stop_le_start (Nat.le_refl _), Array.append_empty]

/-- **Reads add up**, to as many bytes as are asked for or to all that are left. -/
theorem readRounds (fuel need : Nat) (enough : need ≤ fuel) (bytes : Bytes) :
    (handle.readRounds fuel need bytes).1
        = bytes ++ file.extract handle.tell
          (handle.tell + min need (file.size - handle.tell))
      ∧ Of file (handle.readRounds fuel need bytes).2
      ∧ (handle.readRounds fuel need bytes).2.tell
        = handle.tell + min need (file.size - handle.tell) := by
  induction fuel generalizing handle need bytes with
  | zero =>
    obtain rfl : need = 0 := Nat.eq_zero_of_le_zero enough
    rw [Nat.zero_min, append_nothing]
    exact ⟨rfl, of, rfl⟩
  | succ fuel ih =>
    unfold BufferedHandle.readRounds
    by_cases none : need = 0
    · rw [if_pos none, none, Nat.zero_min, append_nothing]
      exact ⟨rfl, of, rfl⟩
    obtain ⟨got, most, nothing, chunk, of', there⟩ := of.read need
    have size : (handle.read need).1.size = got := by
      rw [chunk, Array.size_extract]
      omega
    rw [if_neg none]
    dsimp only
    by_cases ended : (handle.read need).1.isEmpty
    · -- an empty read means that nothing is left
      rw [Array.isEmpty_iff_size_eq_zero, size] at ended
      have left := nothing ended
      rw [if_pos (Array.isEmpty_iff_size_eq_zero.mpr (size.trans ended)), left, append_nothing]
      exact ⟨rfl, of', by rw [there, ended]⟩
    · rw [Array.isEmpty_iff_size_eq_zero, size] at ended
      obtain ⟨gathered, of'', last⟩ := ih of' (need - got) (by omega)
        (bytes ++ (handle.read need).1)
      have sum : handle.tell + got + min (need - got) (file.size - (handle.tell + got))
          = handle.tell + min need (file.size - handle.tell) := by omega
      rw [there, sum] at gathered last
      rw [if_neg (by rwa [Array.isEmpty_iff_size_eq_zero, size]), size]
      refine ⟨?_, of'', last⟩
      rw [gathered, chunk, Array.append_assoc, Array.extract_append_extract]
      congr 2
      · omega
      · omega

/-- **A drained handle is at its end**: a round consumes a byte at least. -/
theorem drain (fuel : Nat) (enough : file.size - handle.tell < fuel) :
    Of file (handle.drain fuel) ∧ file.size ≤ (handle.drain fuel).tell := by
  induction fuel generalizing handle with
  | zero => exact absurd enough (Nat.not_lt_zero _)
  | succ fuel ih =>
    obtain ⟨filled, place, none⟩ := of.fill
    unfold BufferedHandle.drain
    dsimp only
    by_cases ended : handle.fill.ahead.isEmpty
    · rw [if_pos ended]
      exact ⟨filled, place ▸ none.mp ended⟩
    · obtain ⟨-, of', there⟩ := filled.consume handle.fill.ahead.size
      have left : ¬ file.size ≤ handle.tell := fun beyond => ended (none.mpr beyond)
      rw [if_neg ended]
      rw [Array.isEmpty_iff_size_eq_zero] at ended
      rw [Nat.min_self, place] at there
      exact ih of' (by omega)

/-- As many rounds as there are bytes are enough. -/
theorem drain_all : Of file (handle.drain (handle.inner.cursor.bytes.size + 1))
    ∧ file.size ≤ (handle.drain (handle.inner.cursor.bytes.size + 1)).tell := by
  have enough : file.size - handle.tell < handle.inner.cursor.bytes.size + 1 := by
    rw [of.bytes]
    omega
  exact of.drain _ enough

end Of

/-! ### Seeks -/

section

variable {target : SeekTarget} {position : Nat} {err : SourceError}

/-- A seek of the handle below drops what was read ahead. -/
theorem seekInner_of_ok (located : handle.inner.locate target = .ok position) :
    seekInner target handle = .ok position (handle.reset position) := by
  unfold seekInner FileHandle.seek
  rw [located]
  rfl

/-- If it is refused, nothing is dropped. -/
theorem seekInner_of_error (refused : handle.inner.locate target = .error err) :
    seekInner target handle = .error err handle := by
  unfold seekInner FileHandle.seek
  rw [refused]

end

namespace Of

variable (of : Of file handle)

include of

theorem seekInner_settles (target : SeekTarget) :
    Settled (Of file) handle.tell (fun position there =>
      position = there ∧ (there : Int) = target.place file.size handle.inner.cursor.position)
      (seekInner target handle) := by
  cases located : handle.inner.locate target with
  | ok position =>
    have place := FileHandle.eq_of_locate located
    rw [of.bytes] at place
    rw [seekInner_of_ok located]
    exact .ok (of.reset position) ⟨rfl, place⟩
  | error err =>
    rw [seekInner_of_error located]
    exact .error of rfl

/-- **Seeks are made from where the handle is**, not from where the handle below is. -/
theorem seek_settles (target : SeekTarget) :
    Settled (Of file) handle.tell (fun position there =>
      position = there ∧ (there : Int) = target.place file.size handle.tell)
      (seek target handle) := by
  have front := of.tell_add
  unfold seek
  cases target with
  | start position => exact of.seekInner_settles (.start position)
  | fromEnd offset => exact of.seekInner_settles (.fromEnd offset)
  | current offset =>
    dsimp only
    by_cases near : -Size.signedLimit ≤ offset - handle.ahead.size
    · rw [if_pos near]
      refine (of.seekInner_settles _).mono fun position there fine => ⟨fine.1, fine.2.trans ?_⟩
      show (handle.inner.cursor.position : Int) + (offset - handle.ahead.size)
        = handle.tell + offset
      omega
    · rw [if_neg near]
      cases located : handle.inner.locate (.current (-handle.ahead.size)) with
      | ok position =>
        -- the handle below is moved back to where the handle is, and from there on
        have place : (position : Int) = handle.inner.cursor.position + -handle.ahead.size :=
          FileHandle.eq_of_locate located
        have back : position = handle.tell := by omega
        rw [bind_of_ok (seekInner_of_ok located), ← back]
        exact (of.reset position).seekInner_settles (.current offset)
      | error err =>
        rw [bind_of_error (seekInner_of_error located)]
        exact .error of rfl

end Of

/-! ### All that can be asked for -/

theorem honest (file : Bytes) : HonestHandle file (Of file) where
  readExact_of_le count handle of enough := by
    show ∃ moved, readExact count handle = _ ∧ _
    unfold readExact
    by_cases there : count ≤ handle.ahead.size
    · obtain ⟨bytes, of', place⟩ := of.consume count
      rw [Nat.min_eq_left there] at bytes place
      rw [if_pos there, bytes]
      exact ⟨_, rfl, of', place⟩
    · obtain ⟨bytes, of', place⟩ := of.readRounds count count (Nat.le_refl _) #[]
      have left : min count (file.size - handle.tell) = count := Nat.min_eq_left enough
      rw [left] at bytes place
      rw [Array.empty_append] at bytes
      have full : ¬ (handle.readRounds count count #[]).1.size < count := by
        rw [bytes, Array.size_extract]
        have inside : Handle.tell handle = handle.tell := rfl
        omega
      rw [if_neg there]
      dsimp only
      rw [if_neg full, bytes]
      exact ⟨_, rfl, of', place⟩
  readExact_of_lt count handle of few := by
    show ∃ err moved, readExact count handle = _ ∧ _
    have tell : Handle.tell handle = handle.tell := rfl
    have ahead := of.size_ahead_le
    obtain ⟨bytes, of', place⟩ := of.readRounds count count (Nat.le_refl _) #[]
    rw [Array.empty_append] at bytes
    have short : (handle.readRounds count count #[]).1.size < count := by
      rw [bytes, Array.size_extract]
      omega
    unfold readExact
    rw [if_neg (by omega)]
    dsimp only
    rw [if_pos short]
    refine ⟨_, _, rfl, of', ?_⟩
    show file.size ≤ (handle.readRounds count count #[]).2.tell
    omega
  seek_start position handle of := by
    have located : handle.inner.locate (.start position) = .ok position := rfl
    exact ⟨_, seekInner_of_ok located, of.reset position, tell_reset handle position⟩

/-- A buffer that cannot be filled means that this is the end. -/
theorem Of.isEmpty_fill (of : Of file handle) :
    handle.fill.ahead.isEmpty = decide (file.size ≤ handle.tell) := by
  rw [Bool.eq_iff_iff, decide_eq_true_iff]
  exact of.fill.2.2

/-- **Buffered handles are faithful** to their bytes, however many there are. -/
theorem faithful (file : Bytes) : Faithful file (Of file) where
  atEnd _ of := congrArg Except.ok of.isEmpty_fill
  askEnd handle of := by
    refine ⟨handle.fill, ?_, of.fill.1, of.fill.2.1⟩
    show EStateM.Result.ok handle.fill.ahead.isEmpty handle.fill = _
    rw [of.isEmpty_fill]
    rfl
  nextOrZero _ of := (honest file).served_nextOrZero of
  takeOrZeros count handle of := by
    show Of file (handle.takeOrZeros count).2 ∧ Served file count (Handle.tell handle)
      (handle.takeOrZeros count).1 (Handle.tell (handle.takeOrZeros count).2)
    unfold takeOrZeros
    refine (honest file).served_takeOrZeros of (fun bytes moved ran => by rw [ran]) ?_
    intro err back failed of'
    have sought := of'.seek_settles (.fromEnd 0)
    rw [failed]
    dsimp only
    generalize seek (.fromEnd 0) back = result at sought
    cases sought with
    | @ok _ last of'' fine =>
      have place : (last.tell : Int) = file.size + 0 := fine.2
      exact ⟨rfl, of'', show file.size ≤ last.tell by omega⟩
    | error of'' _ => exact ⟨rfl, of''.drain_all⟩
  take count _ of := (honest file).take_settles (fun _ => rfl) count of
  takeUpTo limit handle of := by
    obtain ⟨got, most, -, bytes, of', there⟩ := of.read limit
    refine .ok of' ⟨?_, ?_⟩
    · show (handle.read limit).1 = file.extract handle.tell (handle.read limit).2.tell
      rw [bytes, there]
    · show (handle.read limit).2.tell ≤ handle.tell + limit
      omega
  seek target _ of := of.seek_settles target
  seek_start position handle of := by
    obtain ⟨back, ran, -⟩ := (honest file).seek_start position handle of
    exact ⟨back, ran⟩

end BufferedHandle

/-! ## Without an end -/

namespace EndlessHandle

/-- Handles of a file. -/
def Of (file : Bytes) (handle : EndlessHandle) : Prop := BufferedHandle.Of file handle.bounded

variable {handle : EndlessHandle}

section

variable {α : Type} {step : SourceM BufferedHandle α}

theorem onBounded_of_ok {a : α} {moved : BufferedHandle}
    (ran : step handle.bounded = .ok a moved) : onBounded step handle = .ok a ⟨moved⟩ := by
  unfold onBounded
  rw [ran]

theorem onBounded_of_error {err : SourceError} {moved : BufferedHandle}
    (failed : step handle.bounded = .error err moved) :
    onBounded step handle = .error err ⟨moved⟩ := by
  unfold onBounded
  rw [failed]

/-- What settles as if the end was known settles. -/
theorem onBounded_settles {good : α → Nat → Prop}
    (settled : Settled (BufferedHandle.Of file) handle.bounded.tell good (step handle.bounded)) :
    Settled (Of file) handle.bounded.tell good (onBounded step handle) := by
  generalize ran : step handle.bounded = result at settled
  cases settled with
  | ok kept fine =>
    rw [onBounded_of_ok ran]
    exact .ok kept fine
  | error kept same =>
    rw [onBounded_of_error ran]
    exact .error kept same

end

theorem seek_settles (target : SeekTarget) (of : handle.Of file) :
    Settled (Of file) handle.bounded.tell (fun position there =>
      position = there ∧ (there : Int) = target.place file.size handle.bounded.tell)
      (seek target handle) := by
  cases target with
  | start position => exact onBounded_settles (BufferedHandle.Of.seek_settles of (.start position))
  | fromEnd offset => exact .error of rfl
  | current offset => exact onBounded_settles (BufferedHandle.Of.seek_settles of (.current offset))

theorem honest (file : Bytes) : HonestHandle file (Of file) where
  readExact_of_le count handle of enough := by
    obtain ⟨moved, ran, there⟩ :=
      (BufferedHandle.honest file).readExact_of_le count handle.bounded of enough
    exact ⟨⟨moved⟩, onBounded_of_ok ran, there⟩
  readExact_of_lt count handle of few := by
    obtain ⟨err, moved, failed, there⟩ :=
      (BufferedHandle.honest file).readExact_of_lt count handle.bounded of few
    exact ⟨err, ⟨moved⟩, onBounded_of_error failed, there⟩
  seek_start position handle of := by
    obtain ⟨back, ran, there⟩ := (BufferedHandle.honest file).seek_start position handle.bounded of
    exact ⟨⟨back⟩, onBounded_of_ok ran, there⟩

/-- **Handles without an end are faithful** to their bytes. -/
theorem faithful (file : Bytes) : Faithful file (Of file) where
  atEnd handle of := congrArg Except.ok (BufferedHandle.Of.isEmpty_fill of)
  askEnd handle of := by
    have filled := BufferedHandle.Of.fill of
    refine ⟨⟨handle.bounded.fill⟩, ?_, filled.1, filled.2.1⟩
    show EStateM.Result.ok handle.bounded.fill.ahead.isEmpty _ = _
    rw [BufferedHandle.Of.isEmpty_fill of]
    rfl
  nextOrZero _ of := (honest file).served_nextOrZero of
  takeOrZeros count handle of := by
    show Of file (handle.takeOrZeros count).2 ∧ Served file count (Handle.tell handle)
      (handle.takeOrZeros count).1 (Handle.tell (handle.takeOrZeros count).2)
    unfold takeOrZeros
    refine (honest file).served_takeOrZeros of (fun bytes moved ran => by rw [ran]) ?_
    intro err back failed of'
    have refused : seek (.fromEnd 0) back = .error (.stream .noEnd) back := rfl
    rw [failed]
    dsimp only
    rw [refused]
    exact ⟨rfl, BufferedHandle.Of.drain_all of'⟩
  take count _ of := (honest file).take_settles (fun _ => rfl) count of
  takeUpTo limit handle of :=
    onBounded_settles ((BufferedHandle.faithful file).takeUpTo limit handle.bounded of)
  seek target _ of := seek_settles target of
  seek_start position handle of := by
    obtain ⟨back, ran, -⟩ := (honest file).seek_start position handle of
    exact ⟨back, ran⟩

end EndlessHandle

end WpgRaster
