import WpgRaster.Proofs.Source.BufferedHandles

/-!
# Readers are interchangeable

As long as no seek leads beyond the end, a byte stream that knows its end does what a cursor
does (`ByteStream.interchanges`), except that it may name other causes when it fails. Handles
are byte streams. So cursors, file handles, and buffered handles whose buffer holds all the
bytes show the same to whoever reads from them (`trace_handles`).

Beyond the end they differ: there a short read leaves a cursor where it is, and moves a
buffered handle back to the end.
-/

namespace WpgRaster

/-- **Targets that are not beyond the end.** Those before the first byte are refused. -/
def SeekTarget.Within (target : SeekTarget) (cursor : Cursor) : Prop :=
  match target with
  | .start position => position ≤ cursor.bytes.size
  | .fromEnd offset => cursor.bytes.size + offset ≤ cursor.bytes.size
  | .current offset => cursor.position + offset ≤ cursor.bytes.size

instance (target : SeekTarget) (cursor : Cursor) : Decidable (target.Within cursor) :=
  match target with
  | .start _ => inferInstanceAs (Decidable (_ ≤ _))
  | .fromEnd _ => inferInstanceAs (Decidable (_ ≤ _))
  | .current _ => inferInstanceAs (Decidable (_ ≤ _))

namespace ByteStream

variable {file : Bytes} {stream : ByteStream} {cursor : Cursor}

/-- Where a distance leads that does not lead beyond the end: a stream and a cursor only
differ in why they refuse what lies before the first byte. -/
theorem offsetFrom_within {base : Nat} {offset : Int} (small : file.size < Size.signedLimit)
    (inside : base ≤ file.size) (within : base + offset ≤ file.size) :
    (∃ position ≤ file.size, offsetFrom base offset = .ok position
        ∧ Cursor.offsetFrom base offset = .ok position)
      ∨ ∃ err err', offsetFrom base offset = .error err
        ∧ Cursor.offsetFrom base offset = .error err' := by
  have lt : Size.signedLimit < Size.limit := by decide
  unfold offsetFrom Cursor.offsetFrom
  rw [if_neg (show ¬ Size.signedLimit ≤ base by omega)]
  by_cases negative : base + offset < 0
  · rw [if_pos (.inl negative), if_pos negative]
    refine .inr ?_
    split
    · exact ⟨_, _, rfl, rfl⟩
    · exact ⟨_, _, rfl, rfl⟩
  · rw [if_neg (by omega), if_neg (by omega), if_neg negative]
    exact .inl ⟨(base + offset).toNat, by omega, rfl, rfl⟩

/-- **Seeks that do not lead beyond the end lead to the same place.** -/
theorem Stands.seek (stands : Stands file stream cursor) (small : file.size < Size.signedLimit)
    {target : SeekTarget} (within : target.Within cursor) :
    Compared (interchange (fun _ _ => True) (Stands file)) (fun _ => Stands file)
      (stream.seek target) (cursor.seek target) := by
  obtain ⟨rfl, rfl, inside, bounded⟩ := stands
  have stands : Stands stream.cursor.bytes stream stream.cursor := ⟨rfl, rfl, inside, bounded⟩
  have located : (∃ position ≤ stream.cursor.bytes.size, stream.locate target = .ok position
        ∧ stream.cursor.locate target = .ok position)
      ∨ ∃ err err', stream.locate target = .error err
        ∧ stream.cursor.locate target = .error err' := by
    cases target with
    | start position => exact .inl ⟨position, within, rfl, rfl⟩
    | fromEnd offset =>
      rw [locate_fromEnd bounded]
      exact offsetFrom_within small (Nat.le_refl _) within
    | current offset => exact offsetFrom_within small inside within
  unfold ByteStream.seek Cursor.seek
  obtain ⟨position, le, there, there'⟩ | ⟨err, err', failed, failed'⟩ := located
  · rw [there, there']
    exact .ok (stands.moveTo le)
  · rw [failed, failed']
    exact .error trivial stands

/-- **A byte stream that knows its end is a cursor**, as long as it is not moved beyond
it. -/
theorem interchanges (small : file.size < Size.signedLimit) :
    Interchanges (fun _ _ => True) SeekTarget.Within (Stands file) where
  refl _ := trivial
  position _ _ stands := congrArg Cursor.position stands.eq
  atEnd := (mirrors small).atEnd
  askEnd := interchange_matches fun stream cursor stands => by
    obtain rfl := stands.eq
    exact Compared.ok stands
  nextOrZero := (mirrors small).nextOrZero
  takeOrZeros := (mirrors small).takeOrZeros
  take := (mirrors small).take
  takeUpTo limit := interchange_matches fun stream cursor stands => by
    obtain rfl := stands.eq
    exact Compared.ok (stands.advance (Nat.min_le_right _ _))
  seek _ _ _ stands within := stands.seek small within
  length := (mirrors small).length

end ByteStream

namespace ReaderOp

variable {file : Bytes} {ops : List ReaderOp}

/-- A stream that knows its end shows what a cursor shows. -/
theorem trace_ofBytes (small : file.size < Size.signedLimit) {buffering : Buffering}
    (bounded : buffering ≠ .bufferedUnbounded)
    (stays : Stays SeekTarget.Within ops (Cursor.ofBytes file)) :
    trace ops (ByteStream.ofBytes file buffering) = trace ops (Cursor.ofBytes file) :=
  (ByteStream.interchanges small).trace_eq ⟨rfl, rfl, Nat.zero_le _, bounded⟩ stays

/-- **Cursors, file handles and buffered handles are interchangeable.** Whatever they are
asked for, one thing after another, they answer the same, fail at the same operations, and
stand at the same position behind each of them, as long as no seek leads beyond the end and
the bytes fit into a buffer. -/
theorem trace_handles (small : file.size ≤ BufferedHandle.capacity)
    (stays : Stays SeekTarget.Within ops (Cursor.ofBytes file)) :
    trace ops (FileHandle.ofBytes file) = trace ops (Cursor.ofBytes file)
      ∧ trace ops (BufferedHandle.ofBytes file) = trace ops (Cursor.ofBytes file) := by
  have lt : BufferedHandle.capacity < Size.signedLimit := by decide
  have signed : file.size < Size.signedLimit := Nat.lt_of_le_of_lt small lt
  have words : Size.signedLimit < Size.limit := by decide
  have stands : ∀ {buffering}, buffering ≠ .bufferedUnbounded →
      ByteStream.Stands file (.ofBytes file buffering) (.ofBytes file) :=
    fun bounded => ⟨rfl, rfl, Nat.zero_le _, bounded⟩
  refine ⟨?_, ?_⟩
  · have direct : Buffering.direct ≠ .bufferedUnbounded := nofun
    rw [← trace_ofBytes signed direct stays]
    refine FileHandle.interchanges.trace_eq ⟨rfl, rfl⟩ ?_
    exact (ByteStream.interchanges signed).stays (fun _ _ _ _ _ => trivial) (stands direct) stays
  · have buffered : Buffering.buffered ≠ .bufferedUnbounded := nofun
    rw [← trace_ofBytes signed buffered stays]
    refine BufferedHandle.interchanges.trace_eq
      ⟨rfl, small, Nat.zero_lt_of_lt words, .inl ⟨rfl, rfl⟩⟩ ?_
    refine (ByteStream.interchanges signed).stays ?_ (stands buffered) stays
    intro target stream cursor stands within
    cases target with
    | start position =>
      rw [← stands.bytes] at signed
      exact Nat.lt_of_le_of_lt within (Nat.lt_trans signed words)
    | fromEnd offset => trivial
    | current offset => trivial

/-- Short reads, exact and zero-filled, partial reads, and seeks back from the end. -/
theorem trace_handles_fiveBytes :
    let file : Bytes := #[1, 2, 3, 4, 5]
    let ops := [u32 .little, askEnd, u16 .big, u32OrZero .big, rewind 3, upTo 2, exact 9, skip 1,
      seek (.fromEnd (-2)), byteOrZero, length, setPosition 4, seek (.current (-5)), position]
    file.size ≤ BufferedHandle.capacity
      ∧ Stays SeekTarget.Within ops (Cursor.ofBytes file)
      ∧ trace ops (FileHandle.ofBytes file) = trace ops (Cursor.ofBytes file)
      ∧ trace ops (BufferedHandle.ofBytes file) = trace ops (Cursor.ofBytes file) := by
  intro file ops
  have small : file.size ≤ BufferedHandle.capacity := by decide
  have stays : Stays SeekTarget.Within ops (Cursor.ofBytes file) := by decide
  exact ⟨small, stays, trace_handles small stays⟩

end ReaderOp

end WpgRaster
