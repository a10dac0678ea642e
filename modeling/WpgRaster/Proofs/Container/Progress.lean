import WpgRaster.Proofs.Container.Visits
import WpgRaster.Proofs.Source.Onward

/-!
# Walks go forward

The next record begins behind the body of this one, and the body behind the first byte of the
record, which was read. The length that a record claims may be zero, and the reads of the
length may have moved nothing at all, but neither leads back to the record (`Walk.lt_of_front`).
So a step that does not end the walk goes to a larger offset, on every source whose reads go
forward (`Walk.step_ok_some`).
-/

namespace WpgRaster.Walk

variable {σ : Type} {walk mid : Walk σ}

/-! ## What was read -/

/-- A read that cannot fail moves the source and nothing else. -/
theorem read_ok {α : Type} {step : σ → α × σ} {a : α} (ran : read step walk = .ok a mid) :
    a = (step walk.source).1 ∧ mid = walk.withSource (step walk.source).2 := by
  cases ran
  exact ⟨rfl, rfl⟩

/-- Nor does one that has to succeed. -/
theorem require_ok {α : Type} {step : SourceM σ α} {a : α} (ran : require step walk = .ok a mid) :
    ∃ source, step walk.source = .ok a source ∧ mid = walk.withSource source := by
  unfold require onSource EStateM.adaptExcept at ran
  cases read : step walk.source with
  | ok a' source =>
    rw [read] at ran
    cases ran
    exact ⟨source, rfl, rfl⟩
  | error err source =>
    rw [read] at ran
    cases ran

/-- Nor one whose failure is an answer. -/
theorem attempt_ok {α : Type} {step : SourceM σ α} {a : α}
    (ran : attempt step walk = .ok (some a) mid) :
    ∃ source, step walk.source = .ok a source ∧ mid = walk.withSource source := by
  unfold attempt at ran
  cases read : step walk.source with
  | ok a' source =>
    rw [read] at ran
    cases ran
    exact ⟨source, rfl, rfl⟩
  | error err source =>
    rw [read] at ran
    cases ran

variable [ByteSource σ]

/-- To look whether the end is reached changes nothing. -/
theorem atEnd_ok {ended : Bool} (asked : atEnd walk = .ok ended mid) : mid = walk := by
  unfold atEnd at asked
  split at asked <;> cases asked
  rfl

/-- Nor does to look where the source stands. -/
theorem position_ok {body : Nat} (here : position walk = .ok body mid) :
    body = ByteSource.position walk.source ∧ mid = walk := by
  cases here
  exact ⟨rfl, rfl⟩

variable [ForwardSource σ] {plan : WalkPlan} {offset : Nat}

open ForwardSource

/-- A byte that was read lies behind the source. -/
theorem position_of_attempt_next {byte : UInt8}
    (attempted : attempt ByteSource.next walk = .ok (some byte) mid) :
    ByteSource.position mid.source = ByteSource.position walk.source + 1
      ∧ ByteSource.position mid.source ≤ ByteSource.size mid.source := by
  obtain ⟨source, read, rfl⟩ := attempt_ok attempted
  obtain ⟨moved, within⟩ := ByteSource.position_of_next read
  refine ⟨moved, ?_⟩
  rw [← (ByteSource.next_onward.of_ok read).size] at within
  exact within

/-- A walk that was sent to an offset is there. -/
theorem position_of_require_seek {here : Nat}
    (sent : require (ByteSource.seek (.start offset)) walk = .ok here mid) :
    ByteSource.position mid.source = offset := by
  obtain ⟨source, sought, rfl⟩ := require_ok sent
  exact position_of_seek walk.source source offset here sought

/-! ## Where the body lies -/

theorem lt_of_frontOne {front : RecordFront}
    (read : frontOne plan offset walk = .ok (some front) mid) : offset < front.body := by
  obtain ⟨here, sent, sought, read⟩ := exists_of_bind_ok read
  have start := position_of_require_seek sought
  obtain ⟨type?, typed, attempted, read⟩ := exists_of_bind_ok read
  cases type? with
  | none => cases read
  | some type =>
    obtain ⟨moved, within⟩ := position_of_attempt_next attempted
    obtain ⟨length, _, sized, read⟩ := exists_of_bind_ok read
    obtain ⟨-, rfl⟩ := read_ok sized
    have forward := ((VarInt.read_onward typed.source).position within).1
    dsimp only at read
    split at read
    · obtain ⟨_, _, thrown, _⟩ := exists_of_bind_ok read
      cases thrown
    · obtain ⟨ended, _, asked, read⟩ := exists_of_bind_ok read
      obtain rfl := atEnd_ok asked
      split at read
      · cases read
      · obtain ⟨body, _, here, read⟩ := exists_of_bind_ok read
        obtain ⟨rfl, rfl⟩ := position_ok here
        split at read
        · cases read
        · cases read
          show offset < ByteSource.position (VarInt.read typed.source).2
          omega

theorem lt_of_frontTwo {front : RecordFront}
    (read : frontTwo offset walk = .ok (some front) mid) : offset < front.body := by
  obtain ⟨here, sent, sought, read⟩ := exists_of_bind_ok read
  have start := position_of_require_seek sought
  obtain ⟨class?, classed, attempted, read⟩ := exists_of_bind_ok read
  cases class? with
  | none => cases read
  | some _ =>
    obtain ⟨moved, -⟩ := position_of_attempt_next attempted
    obtain ⟨type?, typed, attempted, read⟩ := exists_of_bind_ok read
    cases type? with
    | none => cases read
    | some type =>
      obtain ⟨moved', within⟩ := position_of_attempt_next attempted
      obtain ⟨extension, _, extended, read⟩ := exists_of_bind_ok read
      obtain ⟨-, rfl⟩ := read_ok extended
      obtain ⟨length, _, sized, read⟩ := exists_of_bind_ok read
      obtain ⟨-, rfl⟩ := read_ok sized
      have forward := (((VarInt.read_onward typed.source).trans
        (VarInt.read_onward _)).position within).1
      obtain ⟨ended, _, asked, read⟩ := exists_of_bind_ok read
      obtain rfl := atEnd_ok asked
      split at read
      · cases read
      · obtain ⟨body, _, here, read⟩ := exists_of_bind_ok read
        obtain ⟨rfl, rfl⟩ := position_ok here
        cases read
        show offset < ByteSource.position (VarInt.read (VarInt.read typed.source).2).2
        omega

/-- **The body of a record lies behind its offset.** -/
theorem lt_of_front {front : RecordFront}
    (read : Walk.front plan offset walk = .ok (some front) mid) : offset < front.body := by
  unfold Walk.front at read
  cases level : plan.level with
  | one =>
    rw [level] at read
    exact lt_of_frontOne read
  | two =>
    rw [level] at read
    exact lt_of_frontTwo read

/-! ## Where the next record lies -/

/-- **The next record is further on.** -/
theorem lt_of_scan {found : Found} (scanned : scan plan offset walk = .ok found mid) {next : Nat}
    (next? : found.next? = some next) : offset < next := by
  obtain ⟨front?, _, read, scanned⟩ := exists_of_bind_ok scanned
  cases front? with
  | none =>
    cases scanned
    cases next?
  | some front =>
    obtain ⟨bitmap?, _, _, scanned⟩ := exists_of_bind_ok scanned
    cases scanned
    have forward : offset < front.next :=
      Nat.lt_of_lt_of_le (lt_of_front read) (Nat.le_add_right _ _)
    cases bitmap? <;> cases next? <;> exact forward

/-- So a step goes forward, to the record behind the one that was found. -/
theorem step_ok_some {next : Nat} (stepped : step plan offset walk = .ok (some next) mid) :
    offset < next ∧ (foundAt plan offset walk).next? = some next := by
  obtain ⟨_, scanned, settled⟩ := step_ok stepped
  have next? : (foundAt plan offset walk).next? = some next := by
    cases found : foundAt plan offset walk with
    | ended =>
      rw [found] at settled
      cases settled
    | passed _ =>
      rw [found] at settled
      cases settled
      rfl
    | bitmap bitmap behind =>
      rw [found] at settled
      obtain ⟨more, -, goesOn⟩ := settle_bitmap_ok settled
      cases more <;> cases goesOn
      rfl
  exact ⟨lt_of_scan scanned next?, next?⟩

end WpgRaster.Walk
