import WpgRaster.Proofs.Source.Lawful
import WpgRaster.Proofs.Source.Likeness
import WpgRaster.Proofs.Source.Reading
import WpgRaster.Proofs.Source.Supply

/-!
# Sources that mirror a cursor

A source *mirrors* a cursor if all that decoding a file asks of it is answered as
the cursor answers it, with two exceptions: exact reads may fail for other causes,
and partial reads may deliver smaller pieces, as long as they deliver something
(`Mirrors`). Then the source is like the cursor (`Mirrors.likeness`), and rasters
are decoded alike (`Mirrors.tracks`). A source whose partial reads deliver all
that is there is *whole* (`Whole`).

Byte streams that know their end are whole, as long as they are not moved beyond
it, and so are cursors. Cursors that deliver pieces of some size mirror a cursor.
-/

namespace WpgRaster

/-- **A source that mirrors a cursor** on the bytes of a file. -/
structure Mirrors {σ : Type} [ByteSource σ] (alike : SourceError → SourceError → Prop)
    (file : Bytes) (rel : σ → Cursor → Prop) : Prop where
  /-- The cursor has these bytes. -/
  bytes : ∀ source cursor, rel source cursor → cursor.bytes = file
  /-- The source has as many. -/
  size : ∀ source cursor, rel source cursor → ByteSource.size source = file.size
  /-- It is at the same position. -/
  position : ∀ source cursor, rel source cursor → ByteSource.position source = cursor.position
  /-- It knows whether this is the end. -/
  atEnd : ∀ source cursor, rel source cursor → ByteSource.atEnd source = .ok cursor.atEnd
  /-- The next byte or zero is the same. -/
  nextOrZero : ReadsCompare (fun _ => False) rel ByteSource.nextOrZero ByteSource.nextOrZero
  /-- So are the next bytes or zeros. -/
  takeOrZeros : ∀ count, ReadsCompare (fun _ => False) rel (ByteSource.takeOrZeros count)
    (ByteSource.takeOrZeros count)
  /-- Exact reads deliver the same. -/
  take : ∀ count, Matches { alike, failed := rel } rel (ByteSource.take count : SourceM σ Bytes)
    (ByteSource.take count)
  /-- Partial reads deliver some of the bytes that are there. -/
  takeUpTo : ∀ limit source cursor, rel source cursor →
    ∃ got source', ByteSource.takeUpTo limit source = .ok (cursor.peek got) source'
      ∧ rel source' (cursor.advance got) ∧ got ≤ limit ∧ got ≤ cursor.remaining
      ∧ (got = 0 → limit = 0 ∨ cursor.remaining = 0)
  /-- It can be moved within the bytes. -/
  seek : ∀ position source cursor, rel source cursor → position ≤ file.size →
    ∃ source', ByteSource.seek (.start position) source = .ok position source'
      ∧ rel source' ⟨file, position⟩
  /-- It has the same length. -/
  length : Matches { alike, failed := rel } rel (ByteSource.length : SourceM σ Nat)
    ByteSource.length

/-- **A source whose partial reads deliver all** that is asked for and there. -/
def Whole {σ : Type} [ByteSource σ] (rel : σ → Cursor → Prop) : Prop :=
  ∀ limit, Simulates rel (ByteSource.takeUpTo limit : SourceM σ Bytes) (ByteSource.takeUpTo limit)

/-- A source that mirrors a cursor somewhere in the file. -/
structure HoldsFile {σ : Type} (file : Bytes) (rel : σ → Cursor → Prop) (source : σ)
    (cursor : Cursor) : Prop where
  /-- The cursor has the same bytes. -/
  bytes : cursor.bytes = file
  /-- The source mirrors a cursor on them. -/
  somewhere : ∃ position, rel source ⟨file, position⟩

/-- Where the cursor stands does not matter. -/
theorem HoldsFile.of_bytes {σ : Type} {file : Bytes} {rel : σ → Cursor → Prop} {source : σ}
    {cursor cursor' : Cursor} (holds : HoldsFile file rel source cursor)
    (bytes : cursor'.bytes = cursor.bytes) : HoldsFile file rel source cursor' :=
  ⟨bytes.trans holds.bytes, holds.somewhere⟩

namespace Mirrors

variable {σ : Type} [ByteSource σ] {alike : SourceError → SourceError → Prop} {file : Bytes}
  {rel : σ → Cursor → Prop} (mirrors : Mirrors alike file rel)

include mirrors

theorem next : Matches { alike, failed := rel } rel (ByteSource.next : SourceM σ UInt8)
    ByteSource.next :=
  (mirrors.take 1).bind fun _ => .pure _

/-- **A source that mirrors a cursor is like it.** -/
theorem likeness : Likeness (fun _ => False) rel where
  nextOrZero := mirrors.nextOrZero
  takeOrZeros := mirrors.takeOrZeros
  next := answered_compares mirrors.next
  atEnd := mirrors.atEnd
  position := mirrors.position

/-- **It keeps track of the cursor.** -/
theorem tracks : Tracks rel where
  size source cursor related := by
    rw [mirrors.size source cursor related, mirrors.bytes source cursor related]
  next source cursor related left := by
    have taken := (mirrors.take 1).compared source cursor related
    have taken' : ByteSource.take 1 cursor = .ok (cursor.peek 1) (cursor.advance 1) := if_pos left
    rw [taken'] at taken
    generalize ByteSource.take 1 source = result at taken ⊢
    cases taken with
    | ok behind => exact ⟨_, rfl, behind⟩
    | fatal failed => exact failed.elim
    | late beyond => exact beyond.elim
  ended source cursor related none := by
    have failed := (mirrors.take 1).compared source cursor related
    have failed' : ByteSource.take 1 cursor = .error (.shortRead 1 cursor.remaining) cursor :=
      if_neg (by omega)
    rw [failed'] at failed
    generalize ByteSource.take 1 source = result at failed ⊢
    cases failed with
    | error _ behind =>
      refine ⟨_, _, rfl, behind, ?_⟩
      rw [mirrors.atEnd _ _ behind, cursor.atEnd_iff.mpr none]
      nofun
    | fatal failed => exact failed.elim
    | late beyond => exact beyond.elim
  chunk need source cursor related wanted := by
    obtain ⟨got, source', taken, behind, few, there, ended⟩ :=
      mirrors.takeUpTo need source cursor related
    exact ⟨got, source', taken, behind, few, there, fun nothing =>
      (ended nothing).resolve_left (Nat.pos_iff_ne_zero.mp wanted)⟩

/-- Where it mirrors the cursor, it holds the file. -/
theorem holds {source : σ} {cursor : Cursor} (related : rel source cursor) :
    HoldsFile file rel source cursor := by
  obtain rfl := mirrors.bytes source cursor related
  exact ⟨rfl, cursor.position, related⟩

/-- **Wherever it stands, it can be moved.** -/
theorem seek_of_holds {source : σ} {cursor : Cursor} (holds : HoldsFile file rel source cursor)
    {position : Nat} (le : position ≤ file.size) :
    ∃ source', ByteSource.seek (.start position) source = .ok position source'
      ∧ ByteSource.seek (.start position) cursor = .ok position (⟨file, position⟩ : Cursor)
      ∧ rel source' ⟨file, position⟩ := by
  obtain ⟨same, before, related⟩ := holds
  obtain ⟨source', moved, there⟩ := mirrors.seek position source _ related le
  refine ⟨source', moved, ?_, there⟩
  rw [← same]
  rfl

end Mirrors

/-! ## Which sources mirror a cursor -/

namespace Cursor

/-- **A cursor itself**, on the bytes of a file. -/
structure Itself (file : Bytes) (source cursor : Cursor) : Prop where
  /-- It is this cursor. -/
  eq : source = cursor
  /-- It has these bytes. -/
  bytes : cursor.bytes = file

variable {file : Bytes}

/-- What keeps the bytes is done alike. -/
theorem matches_self {α : Type} {op : SourceM Cursor α}
    (keeps : ∀ cursor, (behind (op cursor)).bytes = cursor.bytes) :
    Matches { failed := Itself file } (Itself file) op op where
  compared source cursor itself := by
    obtain ⟨rfl, bytes⟩ := itself
    have kept := keeps source
    generalize op source = result at kept ⊢
    cases result with
    | ok a behind => exact .ok ⟨rfl, kept.trans bytes⟩
    | error err behind => exact .error rfl ⟨rfl, kept.trans bytes⟩
  stays _ beyond := beyond.elim

/-- **A cursor mirrors itself.** -/
theorem mirrors : Mirrors Eq file (Itself file) where
  bytes _ _ itself := itself.bytes
  size := by
    rintro cursor _ ⟨rfl, rfl⟩
    rfl
  position := by
    rintro cursor _ ⟨rfl, -⟩
    rfl
  atEnd := by
    rintro cursor _ ⟨rfl, -⟩
    rfl
  nextOrZero :=
    { compared := by
        rintro cursor _ ⟨rfl, bytes⟩
        exact .inl ⟨rfl, rfl, cursor.bytes_nextOrZero.trans bytes⟩
      stays := fun _ beyond => beyond.elim }
  takeOrZeros count :=
    { compared := by
        rintro cursor _ ⟨rfl, bytes⟩
        exact .inl ⟨rfl, rfl, (cursor.bytes_takeOrZeros count).trans bytes⟩
      stays := fun _ beyond => beyond.elim }
  take count := matches_self (bytes_take count)
  takeUpTo limit := by
    rintro cursor _ ⟨rfl, bytes⟩
    refine ⟨min limit cursor.remaining, _, ?_, ⟨rfl, bytes⟩, by omega, by omega, by omega⟩
    rw [cursor.peek_min_remaining]
    rfl
  seek position := by
    rintro cursor _ ⟨rfl, rfl⟩ -
    exact ⟨_, rfl, rfl, rfl⟩
  length := matches_self fun cursor => sameFile_iff.mp (ByteSource.length_sameFile cursor)

theorem whole : Whole (Itself file) := by
  rintro limit cursor _ ⟨rfl, bytes⟩
  exact .ok ⟨rfl, bytes⟩

end Cursor

/-- **A byte stream that knows its end** mirrors a cursor that is not beyond it. -/
structure ByteStream.Stands (file : Bytes) (stream : ByteStream) (cursor : Cursor) : Prop where
  /-- The stream stands where the cursor does. -/
  eq : stream.cursor = cursor
  /-- It has these bytes. -/
  bytes : cursor.bytes = file
  /-- It is not beyond them. -/
  within : cursor.position ≤ file.size
  /-- It knows its end. -/
  bounded : stream.buffering ≠ .bufferedUnbounded

namespace ByteStream

variable {file : Bytes} {stream : ByteStream} {cursor : Cursor}

/-- A stream may be moved on within its bytes. -/
theorem Stands.moveTo (stands : Stands file stream cursor) {position : Nat}
    (le : position ≤ file.size) : Stands file (stream.moveTo position) ⟨file, position⟩ := by
  obtain ⟨rfl, rfl, -, bounded⟩ := stands
  exact ⟨rfl, rfl, le, bounded⟩

theorem Stands.advance (stands : Stands file stream cursor) {count : Nat}
    (enough : count ≤ cursor.remaining) :
    Stands file (stream.advance count) (cursor.advance count) := by
  obtain ⟨rfl, rfl, within, bounded⟩ := stands
  have le : stream.cursor.position + count ≤ stream.cursor.bytes.size := by
    unfold Cursor.remaining at enough
    omega
  exact ⟨rfl, rfl, le, bounded⟩

/-- However a stream is exhausted, it is at its end then. -/
theorem Stands.exhaust (stands : Stands file stream cursor) :
    Stands file stream.exhaust cursor.exhaust := by
  obtain ⟨rfl, rfl, within, bounded⟩ := stands
  have ends : stream.cursor.exhaust = ⟨stream.cursor.bytes, stream.cursor.bytes.size⟩ := by
    unfold Cursor.exhaust
    rw [Nat.max_eq_right within]
  refine ⟨?_, rfl, ?_, ?_⟩
  · unfold exhaust
    split
    · rfl
    · rfl
    · exact ends.symm
  · exact Nat.le_of_eq (congrArg Cursor.position ends)
  · unfold exhaust
    split <;> exact bounded

/-- At the end, a single byte leaves the stream there. -/
theorem Stands.nextOrZero (stands : Stands file stream cursor) :
    stream.nextOrZero.1 = cursor.nextOrZero.1
      ∧ Stands file stream.nextOrZero.2 cursor.nextOrZero.2 := by
  have same := stands.eq
  subst same
  unfold ByteStream.nextOrZero Cursor.nextOrZero
  cases there : stream.cursor.bytes[stream.cursor.position]? with
  | some byte =>
    refine ⟨rfl, stands.advance ?_⟩
    have inside := (Array.getElem?_eq_some_iff.mp there).1
    unfold Cursor.remaining
    omega
  | none =>
    have ends : stream.cursor.position = stream.cursor.bytes.size := by
      have beyond := Array.getElem?_eq_none_iff.mp there
      have within := stands.within
      rw [← stands.bytes] at within
      omega
    cases buffering : stream.buffering with
    | direct =>
      have stays : stream.moveTo stream.cursor.bytes.size = stream := by
        rw [← ends]
        rfl
      refine ⟨rfl, ?_⟩
      show Stands file (stream.moveTo stream.cursor.bytes.size) stream.cursor
      rwa [stays]
    | buffered => exact ⟨rfl, stands⟩
    | bufferedUnbounded => exact ⟨rfl, stands⟩

theorem Stands.takeOrZeros (stands : Stands file stream cursor) (count : Nat) :
    (stream.takeOrZeros count).1 = (cursor.takeOrZeros count).1
      ∧ Stands file (stream.takeOrZeros count).2 (cursor.takeOrZeros count).2 := by
  have same := stands.eq
  subst same
  unfold ByteStream.takeOrZeros Cursor.takeOrZeros
  split
  · next enough => exact ⟨rfl, stands.advance enough⟩
  · exact ⟨rfl, stands.exhaust⟩

/-- The length of a stream that knows its end is found, and its position is left
alone. -/
theorem length_eq (stream : ByteStream) (bounded : stream.buffering ≠ .bufferedUnbounded)
    (small : stream.cursor.bytes.size < Size.signedLimit) :
    ByteSource.length stream = .ok stream.cursor.bytes.size stream := by
  have located : stream.locate (.fromEnd 0) = .ok stream.cursor.bytes.size := by
    show (if stream.buffering = .bufferedUnbounded then _ else _) = _
    rw [if_neg bounded]
    unfold offsetFrom
    have le : Size.signedLimit ≤ Size.limit := by decide
    rw [if_neg (by omega), Int.add_zero, Int.toNat_natCast]
  have sought : (ByteSource.seek (.fromEnd 0) : SourceM ByteStream Nat) stream
      = .ok stream.cursor.bytes.size (stream.moveTo stream.cursor.bytes.size) := by
    show seek (.fromEnd 0) stream = _
    unfold seek
    rw [located]
  refine ByteSource.length_of_seek sought rfl fun same => ?_
  rw [← same]
  rfl

/-- **Byte streams that know their end mirror a cursor**, but for the causes that
exact reads fail for. -/
theorem mirrors (small : file.size < Size.signedLimit) :
    Mirrors (fun _ _ => True) file (Stands file) where
  bytes _ _ stands := stands.bytes
  size stream cursor stands := by
    rw [← stands.bytes, ← stands.eq]
    rfl
  position stream cursor stands := by
    rw [← stands.eq]
    rfl
  atEnd stream cursor stands := by
    rw [← stands.eq]
    rfl
  nextOrZero := ⟨fun _ _ stands => .inl stands.nextOrZero, fun _ beyond => beyond.elim⟩
  takeOrZeros count :=
    ⟨fun _ _ stands => .inl (stands.takeOrZeros count), fun _ beyond => beyond.elim⟩
  take count :=
    { compared := fun stream cursor stands => by
        obtain rfl := stands.eq
        show Compared _ _ (take count stream) (Cursor.take count stream.cursor)
        unfold take Cursor.take
        split
        · next enough => exact .ok (stands.advance enough)
        · exact .error trivial stands
      stays := fun _ beyond => beyond.elim }
  takeUpTo limit stream cursor stands := by
    obtain rfl := stands.eq
    refine ⟨min limit stream.cursor.remaining,
      stream.advance (min limit stream.cursor.remaining), ?_, stands.advance (by omega), by omega,
      by omega, by omega⟩
    rw [stream.cursor.peek_min_remaining]
    rfl
  seek position stream cursor stands le := ⟨stream.moveTo position, rfl, stands.moveTo le⟩
  length :=
    { compared := fun stream cursor stands => by
        obtain rfl := stands.eq
        have small : stream.cursor.bytes.size < Size.signedLimit := by
          rwa [stands.bytes]
        rw [ByteSource.length_eq small, stream.length_eq stands.bounded small]
        exact .ok stands
      stays := fun _ beyond => beyond.elim }

theorem whole : Whole (Stands file) := by
  intro limit stream cursor stands
  obtain rfl := stands.eq
  exact .ok (stands.advance (by omega))

end ByteStream

namespace FaultyCursor

/-- **A cursor that delivers pieces**, and has no faults. -/
structure Delivers (chunk : Option Nat) (file : Bytes) (source : FaultyCursor) (cursor : Cursor) :
    Prop where
  /-- It is this cursor. -/
  eq : source = { cursor, chunk }
  /-- It has these bytes. -/
  bytes : cursor.bytes = file

/-- A cursor whose end can be sought measures what the plain one measures. -/
theorem length_eq {source : FaultyCursor} (seekable : source.endUnseekable = false) :
    ByteSource.length source = onCursor ByteSource.length source := by
  have here : (get : SourceM FaultyCursor FaultyCursor) source = .ok source source := rfl
  have here' : (get : SourceM Cursor Cursor) source.cursor = .ok source.cursor source.cursor := rfl
  have sought : (ByteSource.seek (.fromEnd 0) : SourceM FaultyCursor Nat) source
      = onCursor (ByteSource.seek (.fromEnd 0)) source := by
    show seek (.fromEnd 0) source = _
    unfold seek
    rw [seekable]
    rfl
  unfold onCursor at sought ⊢
  unfold ByteSource.length
  rw [bind_of_ok here, bind_of_ok here']
  dsimp only
  cases ran : (ByteSource.seek (.fromEnd 0) : SourceM Cursor Nat) source.cursor with
  | error err cursor =>
    rw [ran] at sought
    rw [bind_of_error sought, bind_of_error ran]
  | ok length cursor =>
    rw [ran] at sought
    rw [bind_of_ok sought, bind_of_ok ran]
    have place : ByteSource.position source = ByteSource.position source.cursor := rfl
    rw [place]
    split <;> rfl

variable {file : Bytes} {source : FaultyCursor} {cursor : Cursor} {chunk : Option Nat}

/-- What such a cursor lets the plain one do, it does itself. -/
theorem onCursor_matches {α : Type} {op : SourceM Cursor α}
    (keeps : ∀ cursor, (behind (op cursor)).bytes = cursor.bytes) :
    Matches { failed := Delivers chunk file } (Delivers chunk file) (onCursor op) op where
  compared source cursor delivers := by
    obtain ⟨rfl, bytes⟩ := delivers
    have kept := keeps cursor
    unfold onCursor
    dsimp only
    generalize op cursor = result at kept ⊢
    cases result with
    | ok a behind => exact .ok ⟨rfl, kept.trans bytes⟩
    | error err behind => exact .error rfl ⟨rfl, kept.trans bytes⟩
  stays _ beyond := beyond.elim

/-- **Cursors that deliver pieces of some size mirror the plain one.** -/
theorem mirrors (some : chunk ≠ some 0) : Mirrors Eq file (Delivers chunk file) where
  bytes _ _ delivers := delivers.bytes
  size := by
    rintro _ cursor ⟨rfl, rfl⟩
    rfl
  position := by
    rintro _ cursor ⟨rfl, rfl⟩
    rfl
  atEnd := by
    rintro _ cursor ⟨rfl, rfl⟩
    rfl
  nextOrZero :=
    { compared := by
        rintro _ cursor ⟨rfl, bytes⟩
        exact .inl ⟨rfl, rfl, cursor.bytes_nextOrZero.trans bytes⟩
      stays := fun _ beyond => beyond.elim }
  takeOrZeros count :=
    { compared := by
        rintro _ cursor ⟨rfl, bytes⟩
        exact .inl ⟨rfl, rfl, (cursor.bytes_takeOrZeros count).trans bytes⟩
      stays := fun _ beyond => beyond.elim }
  take count :=
    { compared := fun source cursor delivers => by
        obtain rfl := delivers.eq
        exact (onCursor_matches (Cursor.bytes_take count)).compared _ cursor delivers
      stays := fun _ beyond => beyond.elim }
  takeUpTo limit := by
    rintro _ cursor ⟨rfl, bytes⟩
    have quota : quota { cursor, chunk } limit ≤ limit
        ∧ (quota { cursor, chunk } limit = 0 → limit = 0) := by
      unfold FaultyCursor.quota
      cases chunk with
      | none => exact ⟨Nat.le_refl _, id⟩
      | some size =>
        have : size ≠ 0 := fun zero => some (congrArg Option.some zero)
        show min limit size ≤ limit ∧ (min limit size = 0 → limit = 0)
        omega
    refine ⟨min (FaultyCursor.quota { cursor, chunk } limit) cursor.remaining, _, ?_, ⟨rfl, bytes⟩,
      by omega, by omega, by omega⟩
    rw [cursor.peek_min_remaining]
    rfl
  seek position := by
    rintro _ cursor ⟨rfl, rfl⟩ -
    exact ⟨_, rfl, rfl, rfl⟩
  length :=
    { compared := fun source cursor delivers => by
        obtain rfl := delivers.eq
        rw [length_eq rfl]
        exact (onCursor_matches fun cursor =>
          Cursor.sameFile_iff.mp (ByteSource.length_sameFile cursor)).compared _ cursor delivers
      stays := fun _ beyond => beyond.elim }

end FaultyCursor

end WpgRaster
