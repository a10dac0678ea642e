import WpgRaster.Proofs.Container.Progress
import WpgRaster.Proofs.Source.Reading

/-!
# Where records lie

A record begins with its type, at level two behind another byte, and then
there is its length. What lies behind that is its body
(`RecordFront.StandsAt`). This is what a walk reads of a record
(`Walk.front_ok`). So the offsets of records grow, and a walk has enough fuel
if it has as much as there are bytes left. What comes behind a visit is then a
course of its own (`Walk.Course.split`).
-/

namespace WpgRaster

/-- How far the type of a record stands behind its offset. -/
def Level.typeOffset : Level → Nat
  | .one => 0
  | .two => 1

/-- Where the length of a record stands. At level two there is another number in front of
it. -/
def Level.lengthAt (level : Level) (file : Bytes) (offset : Nat) : Cursor :=
  match level with
  | .one => ⟨file, offset + 1⟩
  | .two => (VarInt.read (⟨file, offset + 2⟩ : Cursor)).2

/-- **A record that begins at an offset of a file.** -/
structure RecordFront.StandsAt (front : RecordFront) (level : Level) (file : Bytes)
    (offset : Nat) : Prop where
  /-- Its type is one of the first bytes. -/
  type : file[offset + level.typeOffset]? = some front.type
  /-- Its length is the number behind them. -/
  length : front.length = (VarInt.read (level.lengthAt file offset)).1.value
  /-- Its body lies behind that number. -/
  body : front.body = (VarInt.read (level.lengthAt file offset)).2.position

/-! ## Reads go forward -/

namespace Cursor

theorem position_le_u16LE (cursor : Cursor) :
    cursor.position ≤ (ByteSource.u16LE cursor).2.position :=
  cursor.position_le_takeOrZeros 2

/-- A number is read forward. -/
theorem position_le_varInt (cursor : Cursor) :
    cursor.position ≤ (VarInt.read cursor).2.position := by
  have first := cursor.position_le_nextOrZero
  have word := position_le_u16LE (ByteSource.nextOrZero cursor).2
  have low := position_le_u16LE (ByteSource.u16LE (ByteSource.nextOrZero cursor).2).2
  unfold VarInt.read
  dsimp only
  split
  · exact first
  · split
    · exact Nat.le_trans first word
    · exact Nat.le_trans first (Nat.le_trans word low)

end Cursor

/-- The type of a record stands in front of its body. -/
theorem RecordFront.StandsAt.lt_body {front : RecordFront} {level : Level} {file : Bytes}
    {offset : Nat} (stands : front.StandsAt level file offset) :
    offset + level.typeOffset < front.body := by
  rw [stands.body]
  refine Nat.lt_of_lt_of_le ?_ (Cursor.position_le_varInt _)
  cases level with
  | one => exact Nat.lt_succ_self offset
  | two => exact Cursor.position_le_varInt (⟨file, offset + 2⟩ : Cursor)

namespace Walk

variable {plan : WalkPlan} {walk mid : Walk Cursor} {offset : Nat}

/-- A byte that is there is read. -/
theorem attempt_next_ok {byte : UInt8}
    (read : attempt ByteSource.next walk = .ok (some byte) mid) :
    walk.source.bytes[walk.source.position]? = some byte
      ∧ mid = walk.withSource (walk.source.advance 1) := by
  unfold attempt at read
  rw [walk.source.getElem?_position]
  cases left : walk.source.rest with
  | nil =>
    have none : walk.source.remaining = 0 := by
      rw [← walk.source.length_rest, left, List.length_nil]
    have failed : ByteSource.next walk.source
        = .error (.shortRead 1 walk.source.remaining) walk.source :=
      bind_of_error (if_neg (by omega))
    rw [failed] at read
    cases read
  | cons byte' rest =>
    rw [ByteSource.next_parses byte' walk.source rest left] at read
    cases read
    exact ⟨rfl, rfl⟩

theorem frontOne_ok {front : RecordFront}
    (read : frontOne plan offset walk = .ok (some front) mid) :
    front.StandsAt .one walk.source.bytes offset ∧ front.next ≤ plan.fileSize
      ∧ mid.source.position = front.body := by
  have sought : require (ByteSource.seek (.start offset)) walk
      = .ok offset (walk.withSource ⟨walk.source.bytes, offset⟩) := rfl
  unfold frontOne at read
  rw [bind_of_ok sought] at read
  obtain ⟨type?, _, typed, read⟩ := exists_of_bind_ok read
  cases type? with
  | none => cases read
  | some type =>
    obtain ⟨found, rfl⟩ := attempt_next_ok typed
    obtain ⟨length, _, sized, read⟩ := exists_of_bind_ok read
    obtain ⟨value, rfl⟩ := read_ok sized
    dsimp only at read
    split at read
    · obtain ⟨_, _, thrown, _⟩ := exists_of_bind_ok read
      cases thrown
    · obtain ⟨ended, _, asked, read⟩ := exists_of_bind_ok read
      obtain rfl := atEnd_ok asked
      split at read
      · cases read
      · obtain ⟨body, _, here, read⟩ := exists_of_bind_ok read
        obtain ⟨rfl, rfl⟩ := position_ok here
        split at read
        · cases read
        · next inside =>
          cases read
          rw [not_or, Nat.not_lt] at inside
          exact ⟨⟨found, congrArg VarInt.value value, rfl⟩, inside.1, rfl⟩

theorem frontTwo_ok {front : RecordFront}
    (read : frontTwo offset walk = .ok (some front) mid) :
    front.StandsAt .two walk.source.bytes offset ∧ mid.source.position = front.body := by
  have sought : require (ByteSource.seek (.start offset)) walk
      = .ok offset (walk.withSource ⟨walk.source.bytes, offset⟩) := rfl
  unfold frontTwo at read
  rw [bind_of_ok sought] at read
  obtain ⟨class?, _, classed, read⟩ := exists_of_bind_ok read
  cases class? with
  | none => cases read
  | some _ =>
    obtain ⟨-, rfl⟩ := attempt_next_ok classed
    obtain ⟨type?, _, typed, read⟩ := exists_of_bind_ok read
    cases type? with
    | none => cases read
    | some type =>
      obtain ⟨found, rfl⟩ := attempt_next_ok typed
      obtain ⟨extension, _, extended, read⟩ := exists_of_bind_ok read
      obtain ⟨-, rfl⟩ := read_ok extended
      obtain ⟨length, _, sized, read⟩ := exists_of_bind_ok read
      obtain ⟨value, rfl⟩ := read_ok sized
      obtain ⟨ended, _, asked, read⟩ := exists_of_bind_ok read
      obtain rfl := atEnd_ok asked
      split at read
      · cases read
      · obtain ⟨body, _, here, read⟩ := exists_of_bind_ok read
        obtain ⟨rfl, rfl⟩ := position_ok here
        cases read
        exact ⟨⟨found, congrArg VarInt.value value, rfl⟩, rfl⟩

/-- **What a walk reads of a record stands there.** The walk is then at the body. At level one
the record ends within the file. -/
theorem front_ok {front : RecordFront} (read : Walk.front plan offset walk = .ok (some front) mid) :
    front.StandsAt plan.level walk.source.bytes offset
      ∧ (plan.level = .one → front.next ≤ plan.fileSize) ∧ mid.source.position = front.body := by
  unfold Walk.front at read
  cases level : plan.level with
  | one =>
    rw [level] at read
    obtain ⟨stands, ends, here⟩ := frontOne_ok read
    exact ⟨stands, fun _ => ends, here⟩
  | two =>
    rw [level] at read
    obtain ⟨stands, here⟩ := frontTwo_ok read
    exact ⟨stands, nofun, here⟩

/-- A bitmap is found in a record of its type, which stands in front of the next
one. -/
theorem type_of_scan_bitmap {bitmap : Bitmap} {next : Nat}
    (scanned : scan plan offset walk = .ok (.bitmap bitmap next) mid) :
    offset + plan.level.typeOffset < next
      ∧ ∃ type ∈ plan.level.bitmapTypes,
        walk.source.bytes[offset + plan.level.typeOffset]? = some type := by
  obtain ⟨front, _, read, rfl, among, -⟩ := scan_bitmap scanned
  obtain ⟨stands, -⟩ := front_ok read
  exact ⟨Nat.lt_of_lt_of_le stands.lt_body (Nat.le_add_right _ _), front.type, among, stands.type⟩

/-! ## Walks go forward -/

/-- **A course is split at a visit**: behind it, unless the walk ended there, the
later visits are a course of their own. If the walk had enough fuel, then so has
what is left of it. -/
theorem Course.split {fuel : Nat} {last : Walk Cursor} {front later : List Visit} {visit : Visit}
    (course : Course plan fuel offset walk (front ++ visit :: later) last)
    (enough : plan.fileSize - offset ≤ fuel) :
    ∃ here before behind next?, offset ≤ here ∧ Proceeds walk before
      ∧ step plan here before = .ok next? behind ∧ visit = Walk.visit plan here before behind
      ∧ ∀ next, next? = some next →
        ∃ fuel', plan.fileSize - next ≤ fuel' ∧ Course plan fuel' next behind later last := by
  induction front generalizing fuel offset walk with
  | nil =>
    cases course with
    | ended _ stepped =>
      exact ⟨offset, walk, last, none, Nat.le_refl _, refl_of Proceeds walk, stepped, rfl, nofun⟩
    | @next fuel _ next _ walk' _ _ _ stepped course =>
      refine ⟨offset, walk, walk', some next, Nat.le_refl _, refl_of Proceeds walk, stepped, rfl,
        ?_⟩
      rintro _ ⟨⟩
      have forward := (step_ok_some stepped).1
      exact ⟨fuel, by omega, course⟩
  | cons passed front ih =>
    have some : front ++ visit :: later ≠ [] := List.append_ne_nil_of_right_ne_nil _ nofun
    change Course plan fuel offset walk (passed :: (front ++ visit :: later)) last at course
    generalize tail : front ++ visit :: later = rest at course
    cases course with
    | ended => exact absurd tail some
    | @next fuel _ next _ walk' _ _ _ stepped course =>
      subst tail
      have forward := (step_ok_some stepped).1
      obtain ⟨here, before, behind, next?, le, proceeds, there⟩ := ih course (by omega)
      exact ⟨here, before, behind, next?, by omega,
        trans_of Proceeds ((step_proceeds plan offset).of_ok stepped) proceeds, there⟩

end Walk

end WpgRaster
