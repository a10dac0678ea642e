import WpgRaster.Proofs.Frame.Truncation
import WpgRaster.Proofs.Source.Likeness
import WpgRaster.Proofs.Source.Reading

/-!
# Files that agree from an offset on

Two files of the same size may have the same bytes from an offset on
(`Cursor.Agree`). If both are read from the same position there, then all reads
answer the same, and leave the cursors at the same position again
(`Cursor.Aligned`). Nothing that is read tells the two files apart. A frame
that is decoded from there on is the same one.
-/

namespace WpgRaster

namespace Cursor

/-- **Cursors whose files agree from an offset on.** -/
structure Agree (first : Nat) (cursor cursor' : Cursor) : Prop where
  /-- The files have the same size. -/
  size : cursor'.bytes.size = cursor.bytes.size
  /-- From the offset on, they have the same bytes. -/
  drop : cursor'.bytes.toList.drop first = cursor.bytes.toList.drop first

/-- **Cursors at the same position** of the part that their files agree on. -/
structure Aligned (first : Nat) (cursor cursor' : Cursor) : Prop extends
    Agree first cursor cursor' where
  /-- The position is the same. -/
  position : cursor'.position = cursor.position
  /-- It is none in front of the offset. -/
  le : first ≤ cursor.position

variable {first : Nat} {cursor cursor' : Cursor}

/-- Moving cursors by reads does not change what their files agree on. -/
theorem Agree.of_bytes (agree : Agree first cursor cursor') {moved moved' : Cursor}
    (bytes : moved.bytes = cursor.bytes) (bytes' : moved'.bytes = cursor'.bytes) :
    Agree first moved moved' := by
  obtain ⟨size, drop⟩ := agree
  rw [← bytes, ← bytes'] at size drop
  exact ⟨size, drop⟩

/-- Cursors that are moved to the same position are aligned there. -/
theorem Agree.aligned (agree : Agree first cursor cursor') {position : Nat}
    (le : first ≤ position) : Aligned first ⟨cursor.bytes, position⟩ ⟨cursor'.bytes, position⟩ :=
  ⟨agree.of_bytes rfl rfl, rfl, le⟩

namespace Aligned

variable (aligned : Aligned first cursor cursor')

include aligned

/-- **The same bytes are left.** -/
theorem rest_eq : cursor'.rest = cursor.rest := by
  have beyond : ∀ bytes : List UInt8,
      bytes.drop cursor.position = (bytes.drop first).drop (cursor.position - first) := by
    intro bytes
    rw [List.drop_drop, Nat.add_sub_cancel' aligned.le]
  unfold rest
  rw [aligned.position, beyond, aligned.drop, ← beyond]

theorem remaining_eq : cursor'.remaining = cursor.remaining := by
  unfold remaining
  rw [aligned.size, aligned.position]

theorem peek_eq (count : Nat) : cursor'.peek count = cursor.peek count := by
  apply Array.toList_inj.mp
  rw [toList_peek, toList_peek, aligned.rest_eq]

theorem advance (count : Nat) : Aligned first (cursor.advance count) (cursor'.advance count) where
  toAgree := aligned.toAgree.of_bytes rfl rfl
  position := congrArg (· + count) aligned.position
  le := Nat.le_trans aligned.le (Nat.le_add_right _ _)

theorem exhaust : Aligned first cursor.exhaust cursor'.exhaust where
  toAgree := aligned.toAgree.of_bytes rfl rfl
  position := by
    show max cursor'.position cursor'.bytes.size = max cursor.position cursor.bytes.size
    rw [aligned.position, aligned.size]
  le := Nat.le_trans aligned.le (Nat.le_max_left _ _)

end Aligned

/-! ## Reads -/

/-- **A read that does not tell aligned cursors apart.** -/
def ReadsAlike (first : Nat) {α : Type} (read : Cursor → α × Cursor) : Prop :=
  ∀ cursor cursor', Aligned first cursor cursor' →
    (read cursor').1 = (read cursor).1 ∧ Aligned first (read cursor).2 (read cursor').2

/-- Such a read compares with itself. -/
theorem ReadsAlike.compares {α : Type} {read : Cursor → α × Cursor}
    (alike : ReadsAlike first read) :
    ReadsCompare (fun _ => False) (Aligned first) read read where
  compared cursor cursor' aligned :=
    .inl ((alike cursor cursor' aligned).imp_left Eq.symm)
  stays _ beyond := beyond.elim

theorem takeOrZeros_alike (count : Nat) :
    ReadsAlike first (ByteSource.takeOrZeros count : Cursor → Bytes × Cursor) := by
  intro cursor cursor' aligned
  show (takeOrZeros count cursor').1 = (takeOrZeros count cursor).1
    ∧ Aligned first (takeOrZeros count cursor).2 (takeOrZeros count cursor').2
  unfold takeOrZeros
  rw [aligned.remaining_eq]
  split
  · exact ⟨aligned.peek_eq count, aligned.advance count⟩
  · exact ⟨rfl, aligned.exhaust⟩

theorem nextOrZero_alike :
    ReadsAlike first (ByteSource.nextOrZero : Cursor → UInt8 × Cursor) := by
  intro cursor cursor' aligned
  show (nextOrZero cursor').1 = (nextOrZero cursor).1
    ∧ Aligned first (nextOrZero cursor).2 (nextOrZero cursor').2
  unfold nextOrZero
  rw [getElem?_position, getElem?_position, aligned.rest_eq]
  split
  · exact ⟨rfl, aligned.advance 1⟩
  · exact ⟨rfl, aligned⟩

theorem take_alike (count : Nat) :
    Simulates (Aligned first) (ByteSource.take count : SourceM Cursor Bytes)
      (ByteSource.take count) := by
  intro cursor cursor' aligned
  show Corresponds _ (take count cursor) (take count cursor')
  unfold take
  rw [aligned.remaining_eq, aligned.peek_eq]
  split
  · exact .ok (aligned.advance count)
  · exact .error aligned

theorem next_alike :
    Simulates (Aligned first) (ByteSource.next : SourceM Cursor UInt8) ByteSource.next :=
  (take_alike 1).bind fun _ => .pure _

theorem takeUpTo_alike (limit : Nat) :
    Simulates (Aligned first) (ByteSource.takeUpTo limit : SourceM Cursor Bytes)
      (ByteSource.takeUpTo limit) := by
  intro cursor cursor' aligned
  show Corresponds _ (.ok (cursor.peek limit) (cursor.advance (min limit cursor.remaining)))
    (.ok (cursor'.peek limit) (cursor'.advance (min limit cursor'.remaining)))
  rw [aligned.remaining_eq, aligned.peek_eq]
  exact .ok (aligned.advance _)

/-- Whether the end is reached is the same. -/
theorem Aligned.atEnd_eq (aligned : Aligned first cursor cursor') :
    ByteSource.atEnd cursor' = ByteSource.atEnd cursor := by
  show Except.ok (decide (cursor'.bytes.size ≤ cursor'.position))
    = .ok (decide (cursor.bytes.size ≤ cursor.position))
  rw [aligned.size, aligned.position]

/-- **Aligned cursors are alike.** -/
theorem aligned_likeness : Likeness (fun _ => False) (Aligned first) where
  nextOrZero := nextOrZero_alike.compares
  takeOrZeros count := (takeOrZeros_alike count).compares
  next := answered_compares next_alike.compares
  atEnd _ _ aligned := aligned.atEnd_eq.symm
  position _ _ aligned := aligned.position.symm

end Cursor

/-! ## Frames -/

/-- **What is left of a cursor decides about the frame** that is decoded from
it. -/
theorem FrameFormat.decode_of_rest_eq {format : FrameFormat} {image : PixelBuffer}
    {stop stop' : Stop} (silent : stop.Silent) (silent' : stop'.Silent) {cursor cursor' : Cursor}
    (rest : cursor'.rest = cursor.rest) :
    (format.decode cursor' image stop').result = (format.decode cursor image stop).result
      ∧ (format.decode cursor' image stop').sink = (format.decode cursor image stop).sink := by
  cases ready : format.setUp image with
  | error err =>
    rw [decode_of_error ready, decode_of_error ready]
    exact ⟨rfl, rfl⟩
  | ok rows =>
    have supplies' := cursor'.supplies
    rw [rest] at supplies'
    obtain ⟨result, painted, handed, sink⟩ := decode_supplied ready silent cursor.supplies
    obtain ⟨result', painted', handed', sink'⟩ := decode_supplied ready silent' supplies'
    rw [result, result', sink, sink', handed'.unique handed]
    exact ⟨rfl, rfl⟩

end WpgRaster
