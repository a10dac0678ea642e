import WpgRaster.Proofs.Source.Mirrors

/-!
# Cursors that break

A cursor may be broken from some byte of its file on. As long as no read touches
that byte, it answers as the intact cursor does (`FaultyCursor.BreaksAt`). A read that
touches it takes the intact cursor *beyond* it, and then there are two kinds of reads.
Exact reads and the reads of a raster fail for good
(`FaultyCursor.BreaksAt.take`, `FaultyCursor.breaking_rasters`). But a read that cannot
fail answers zeros, and a byte that cannot be read where a record should begin is an
answer as well. So what stands in front of a raster is read alike only until the
intact cursor is beyond the byte (`FaultyCursor.breaking_likeness`).
-/

namespace WpgRaster

/-- The failure of a read that touches a byte which cannot be read. -/
def SourceError.IsUnreadable (cause : SourceError) : Prop := cause = .broken .unreadable

namespace Cursor

/-- A cursor behind some byte. -/
def Beyond (first : Nat) (cursor : Cursor) : Prop := first < cursor.position

theorem Beyond.of_le {first : Nat} {cursor cursor' : Cursor} (beyond : Beyond first cursor)
    (le : cursor.position ≤ cursor'.position) : Beyond first cursor' :=
  Nat.lt_of_lt_of_le beyond le

theorem position_le_next (cursor : Cursor) :
    cursor.position ≤ (behind (ByteSource.next cursor)).position := by
  unfold ByteSource.next
  obtain enough | short := Nat.lt_or_ge 0 cursor.remaining
  · have taken : ByteSource.take 1 cursor = .ok (cursor.peek 1) (cursor.advance 1) := if_pos enough
    rw [bind_of_ok taken]
    exact Nat.le_add_right _ _
  · have failed : ByteSource.take 1 cursor = .error (.shortRead 1 cursor.remaining) cursor :=
      if_neg (by omega)
    rw [bind_of_error failed]
    exact Nat.le_refl _

end Cursor

namespace FaultyCursor

/-- **A cursor that is broken from some byte of a file on**, and the intact one. They
stand at the same place, which is not behind that byte. -/
structure BreaksAt (first : Nat) (file : Bytes) (source : FaultyCursor) (cursor : Cursor) :
    Prop where
  /-- It is this cursor. -/
  eq : source = { cursor, brokenFrom := some first }
  /-- It has these bytes. -/
  bytes : cursor.bytes = file
  /-- It did not come by the broken byte. -/
  within : cursor.position ≤ first

namespace BreaksAt

variable {first : Nat} {file : Bytes} {source : FaultyCursor} {cursor : Cursor}

/-- The cursors go on together. -/
theorem advance (breaks : BreaksAt first file source cursor) {count : Nat}
    (sound : cursor.position + count ≤ first) :
    BreaksAt first file { cursor := cursor.advance count, brokenFrom := some first }
      (cursor.advance count) :=
  ⟨rfl, breaks.bytes, sound⟩

theorem position_eq (breaks : BreaksAt first file source cursor) :
    ByteSource.position source = cursor.position := by
  rw [breaks.eq]
  rfl

/-- A read touches the broken byte if it would get behind it. -/
theorem touchesFault (breaks : BreaksAt first file source cursor) (count : Nat) :
    source.touchesFault count = decide (first < cursor.position + count) := by
  rw [breaks.eq]
  rfl

section

variable (breaks : BreaksAt first file source cursor) (inside : first < file.size)

include breaks inside

/-- There is more left than what can be read. -/
theorem lt_remaining : first - cursor.position < cursor.remaining := by
  have within := breaks.within
  rw [← breaks.bytes] at inside
  unfold Cursor.remaining
  omega

theorem atEnd_eq : ByteSource.atEnd source = .ok false ∧ ByteSource.atEnd cursor = .ok false := by
  have left := breaks.lt_remaining inside
  have more : cursor.atEnd = false := Bool.eq_false_iff.mpr fun ended => by
    rw [cursor.atEnd_iff.mp ended] at left
    exact Nat.not_lt_zero _ left
  rw [breaks.eq]
  exact ⟨congrArg Except.ok more, congrArg Except.ok more⟩

/-- **An exact read** is that of the intact cursor, or it touches the broken byte. -/
theorem take (count : Nat) :
    (cursor.position + count ≤ first
        ∧ ByteSource.take count source = .ok (cursor.peek count)
          { cursor := cursor.advance count, brokenFrom := some first }
        ∧ ByteSource.take count cursor = .ok (cursor.peek count) (cursor.advance count))
      ∨ (first < cursor.position + count
        ∧ ByteSource.take count source = .error (.broken .unreadable) source) := by
  have left := breaks.lt_remaining inside
  have asked := breaks.touchesFault count
  obtain touches | sound := Nat.lt_or_ge first (cursor.position + count)
  · rw [decide_eq_true touches] at asked
    exact .inr ⟨touches, if_pos asked⟩
  · have taken : Cursor.take count cursor = .ok (cursor.peek count) (cursor.advance count) :=
      if_pos (by omega)
    refine .inl ⟨sound, ?_, taken⟩
    rw [decide_eq_false (Nat.not_lt.mpr sound)] at asked
    show FaultyCursor.take count source = _
    unfold FaultyCursor.take onCursor
    rw [asked, breaks.eq]
    dsimp only
    rw [taken]
    rfl

/-- **A partial read** delivers what is asked for, or all that is in front of the
broken byte, or it touches that byte. -/
theorem takeUpTo (limit : Nat) :
    (cursor.position < first
        ∧ ByteSource.takeUpTo limit source = .ok (cursor.peek (min limit (first - cursor.position)))
          { cursor := cursor.advance (min limit (first - cursor.position))
            brokenFrom := some first })
      ∨ (cursor.position = first
        ∧ ByteSource.takeUpTo limit source = .error (.broken .unreadable) source) := by
  have left := breaks.lt_remaining inside
  have within := breaks.within
  have asked := breaks.touchesFault 1
  obtain touches | sound := Nat.lt_or_ge first (cursor.position + 1)
  · rw [decide_eq_true touches] at asked
    exact .inr ⟨by omega, if_pos asked⟩
  · refine .inl ⟨sound, ?_⟩
    rw [decide_eq_false (Nat.not_lt.mpr sound)] at asked
    have quota : source.quota limit = min limit (first - cursor.position) := by
      rw [breaks.eq]
      rfl
    have few : min limit (first - cursor.position) ≤ cursor.remaining := by omega
    show FaultyCursor.takeUpTo limit source = _
    unfold FaultyCursor.takeUpTo onCursor Cursor.takeUpTo
    rw [asked, quota, breaks.eq]
    dsimp only
    rw [Nat.min_eq_left few]
    rfl

/-- **A single byte** is that of the intact cursor, or it is the broken one. -/
theorem next :
    ByteSource.next cursor = .ok ((cursor.peek 1)[0]?.getD 0) (cursor.advance 1)
      ∧ ((cursor.position + 1 ≤ first
          ∧ ByteSource.next source = .ok ((cursor.peek 1)[0]?.getD 0)
            { cursor := cursor.advance 1, brokenFrom := some first })
        ∨ (first < cursor.position + 1
          ∧ ByteSource.next source = .error (.broken .unreadable) source)) := by
  have left := breaks.lt_remaining inside
  have there : ByteSource.take 1 cursor = .ok (cursor.peek 1) (cursor.advance 1) :=
    if_pos (by omega)
  refine ⟨bind_of_ok there, ?_⟩
  obtain ⟨sound, taken, -⟩ | ⟨touches, failed⟩ := breaks.take inside 1
  · exact .inl ⟨sound, bind_of_ok taken⟩
  · exact .inr ⟨touches, bind_of_error failed⟩

/-! ## Rasters -/

/-- A single byte of a raster. -/
theorem nextByte :
    (cursor.position + 1 ≤ first
        ∧ Token.nextByte source = .ok ((cursor.peek 1)[0]?.getD 0)
          { cursor := cursor.advance 1, brokenFrom := some first }
        ∧ Token.nextByte cursor = .ok ((cursor.peek 1)[0]?.getD 0) (cursor.advance 1))
      ∨ ∃ source', Token.nextByte source = .error (.source (.broken .unreadable)) source' := by
  obtain ⟨there, ⟨sound, read⟩ | ⟨-, failed⟩⟩ := breaks.next inside
  · refine .inl ⟨sound, ?_, ?_⟩
    · unfold Token.nextByte
      rw [read]
    · unfold Token.nextByte
      rw [there]
  · refine .inr ⟨source, ?_⟩
    unfold Token.nextByte
    rw [failed]
    dsimp only
    rw [(breaks.atEnd_eq inside).1]

/-- **Partial reads add up to what is asked for, or one of them touches the broken
byte.** -/
theorem gather (fuel need : Nat) (enough : need ≤ fuel) (bytes : Bytes) :
    (cursor.position + need ≤ first
        ∧ FrameFormat.gather fuel need bytes source = .ok (bytes ++ cursor.peek need)
          { cursor := cursor.advance need, brokenFrom := some first })
      ∨ ∃ source',
        FrameFormat.gather fuel need bytes source = .error (.broken .unreadable) source' := by
  induction fuel generalizing need bytes source cursor with
  | zero =>
    obtain rfl : need = 0 := Nat.eq_zero_of_le_zero enough
    refine .inl ⟨breaks.within, ?_⟩
    rw [cursor.peek_zero, Array.append_empty, cursor.advance_zero, ← breaks.eq]
    rfl
  | succ fuel ih =>
    unfold FrameFormat.gather
    by_cases none : need = 0
    · refine .inl ⟨none ▸ breaks.within, ?_⟩
      rw [if_pos none, none, cursor.peek_zero, Array.append_empty, cursor.advance_zero, ← breaks.eq]
      rfl
    rw [if_neg none]
    have left := breaks.lt_remaining inside
    obtain ⟨sound, taken⟩ | ⟨-, failed⟩ := breaks.takeUpTo inside need
    · rw [bind_of_ok taken]
      generalize count : min need (first - cursor.position) = got at taken ⊢
      have size : (cursor.peek got).size = got := by
        rw [cursor.size_peek]
        omega
      have some : (cursor.peek got).isEmpty = false := by
        rw [Bool.eq_false_iff, ne_eq, Array.isEmpty_iff_size_eq_zero]
        omega
      rw [some, if_neg Bool.false_ne_true, size]
      have onward : BreaksAt first file _ (cursor.advance got) := breaks.advance (by omega)
      obtain ⟨within, gathered⟩ | failed := ih onward (need - got) (by omega)
        (bytes ++ cursor.peek got)
      · have within : cursor.position + got + (need - got) ≤ first := within
        refine .inl ⟨by omega, ?_⟩
        rw [gathered, Array.append_assoc, cursor.peek_append_peek, cursor.advance_advance,
          Nat.add_sub_cancel' (by omega)]
      · exact .inr failed
    · exact .inr ⟨_, bind_of_error failed⟩

/-- A packed row. -/
theorem nextRow (width : Nat) :
    (cursor.position + width ≤ first
        ∧ FrameFormat.nextRow width source = .ok (cursor.peek width)
          { cursor := cursor.advance width, brokenFrom := some first }
        ∧ FrameFormat.nextRow width cursor = .ok (cursor.peek width) (cursor.advance width))
      ∨ ∃ source',
        FrameFormat.nextRow width source = .error (.source (.broken .unreadable)) source' := by
  have left := breaks.lt_remaining inside
  obtain ⟨sound, gathered⟩ | ⟨source', failed⟩ :=
    breaks.gather inside width width (Nat.le_refl width) #[]
  · refine .inl ⟨sound, ?_, ?_⟩
    · unfold FrameFormat.nextRow EStateM.adaptExcept
      rw [gathered, Array.empty_append]
    · obtain ⟨_, read, rfl⟩ := Cursor.tracks.nextRow_eq (Eq.refl cursor) width
      rw [read, Nat.min_eq_left (by omega)]
  · refine .inr ⟨source', ?_⟩
    unfold FrameFormat.nextRow EStateM.adaptExcept
    rw [failed]

end

end BreaksAt

section

variable {first : Nat} {file : Bytes} (inside : first < file.size)

include inside

/-- **Rasters are read alike until the broken byte is touched.** -/
theorem breaking_rasters :
    SourceCompares (RasterError.Fatal SourceError.IsUnreadable) (BreaksAt first file) where
  size := by
    rintro _ cursor ⟨rfl, -, -⟩
    rfl
  nextByte :=
    { compared := fun source cursor breaks => by
        obtain ⟨sound, read, read'⟩ | ⟨source', failed⟩ := breaks.nextByte inside
        · rw [read, read']
          exact .ok (breaks.advance sound)
        · rw [failed]
          exact .fatal ⟨_, rfl, rfl⟩
      stays := fun _ beyond => beyond.elim }
  nextRow width :=
    { compared := fun source cursor breaks => by
        obtain ⟨sound, read, read'⟩ | ⟨source', failed⟩ := breaks.nextRow inside width
        · rw [read, read']
          exact .ok (breaks.advance sound)
        · rw [failed]
          exact .fatal ⟨_, rfl, rfl⟩
      stays := fun _ beyond => beyond.elim }
  final _ failed := failed.final

/-! ## Records -/

/-- **Records are read alike until the intact cursor is beyond the broken byte.** -/
theorem breaking_likeness : Likeness (Cursor.Beyond first) (BreaksAt first file) where
  nextOrZero :=
    { compared := fun source cursor breaks => by
        have left := breaks.lt_remaining inside
        have asked := breaks.touchesFault 1
        have there : cursor.position < cursor.bytes.size := by
          unfold Cursor.remaining at left
          omega
        have read : cursor.nextOrZero = (cursor.bytes[cursor.position], cursor.advance 1) := by
          unfold Cursor.nextOrZero
          rw [Array.getElem?_eq_getElem there]
        show (source.nextOrZero.1 = cursor.nextOrZero.1
          ∧ BreaksAt first file source.nextOrZero.2 cursor.nextOrZero.2)
          ∨ Cursor.Beyond first cursor.nextOrZero.2
        unfold FaultyCursor.nextOrZero
        rw [asked, breaks.eq, read]
        obtain touches | sound := Nat.lt_or_ge first (cursor.position + 1)
        · exact .inr touches
        · rw [decide_eq_false (Nat.not_lt.mpr sound)]
          exact .inl ⟨rfl, breaks.advance sound⟩
      stays := fun cursor beyond => beyond.of_le cursor.position_le_nextOrZero }
  takeOrZeros count :=
    { compared := fun source cursor breaks => by
        have left := breaks.lt_remaining inside
        have asked := breaks.touchesFault count
        show ((source.takeOrZeros count).1 = (cursor.takeOrZeros count).1
          ∧ BreaksAt first file (source.takeOrZeros count).2 (cursor.takeOrZeros count).2)
          ∨ Cursor.Beyond first (cursor.takeOrZeros count).2
        obtain touches | sound := Nat.lt_or_ge first (cursor.position + count)
        · -- at the end of the file the intact cursor is beyond the byte as well
          refine .inr ?_
          unfold Cursor.takeOrZeros
          split
          · exact touches
          · rw [← breaks.bytes] at inside
            exact Nat.lt_of_lt_of_le inside (Nat.le_max_right _ _)
        · have read : cursor.takeOrZeros count = (cursor.peek count, cursor.advance count) :=
            if_pos (by omega)
          unfold FaultyCursor.takeOrZeros
          rw [asked, decide_eq_false (Nat.not_lt.mpr sound), breaks.eq, read]
          exact .inl ⟨rfl, breaks.advance sound⟩
      stays := fun cursor beyond => beyond.of_le (cursor.position_le_takeOrZeros count) }
  next :=
    { compared := fun source cursor breaks => by
        unfold answered
        obtain ⟨there, ⟨sound, read⟩ | ⟨touches, failed⟩⟩ := breaks.next inside
        · rw [read, there]
          exact .inl ⟨rfl, breaks.advance sound⟩
        · rw [there]
          exact .inr touches
      stays := fun cursor beyond => by
        have forward := cursor.position_le_next
        unfold answered
        generalize ByteSource.next cursor = result at forward ⊢
        cases result <;> exact beyond.of_le forward }
  atEnd := fun source cursor breaks =>
    (breaks.atEnd_eq inside).1.trans (breaks.atEnd_eq inside).2.symm
  position := fun _ _ breaks => breaks.position_eq

end

end FaultyCursor

end WpgRaster
