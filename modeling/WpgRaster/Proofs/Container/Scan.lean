import WpgRaster.Container.Walk
import WpgRaster.Proofs.Steps

/-!
# What a walk finds

A step of a walk does two things. It *scans* a record (`Walk.scan`): it reads
what stands in front of the body, and it reads the body as far as its type
matters. If that is a bitmap, then the step *settles* what becomes of it
(`Walk.settle`), and this alone depends on the options and on whether anything
but the header is wanted. So two walks that differ in nothing else find the
same records up to the first bitmap (`Walk.step_eq_scan`).
-/

namespace WpgRaster

/-- What stands in front of the body of a record. -/
structure RecordFront where
  /-- The type of the record. -/
  type : UInt8
  /-- The offset of its body. -/
  body : Nat
  /-- The length of its body. -/
  length : Nat
  deriving DecidableEq, Repr

/-- The offset of the next record. -/
def RecordFront.next (front : RecordFront) : Nat := front.body + front.length

/-- **What a walk finds at an offset.** -/
inductive Found
  /-- No further record: the walk ends. -/
  | ended
  /-- A record without a bitmap, and the offset of the next one. -/
  | passed (next : Nat)
  /-- A bitmap, whose raster begins at the present position, and the offset
  of the next record. -/
  | bitmap (bitmap : Bitmap) (next : Nat)
  deriving DecidableEq, Repr

/-- A record in which a bitmap was found, or none. -/
def Found.ofBitmap? (next : Nat) : Option Bitmap → Found
  | some described => .bitmap described next
  | none => .passed next

/-- The bitmap that was found. -/
def Found.bitmap? : Found → Option Bitmap
  | bitmap described _ => some described
  | _ => none

/-- The offset of the record behind the one that was found. -/
def Found.next? : Found → Option Nat
  | ended => none
  | passed next => some next
  | bitmap _ next => some next

namespace Walk

variable {σ : Type} [ByteSource σ]

/-! ## Scanning -/

/-- Reads what stands in front of the body of a record of level one. -/
def frontOne (plan : WalkPlan) (offset : Nat) : WalkM σ (Option RecordFront) := do
  let _ ← require (ByteSource.seek (.start offset))
  let some type ← attempt ByteSource.next | return none
  let length := (← read VarInt.read).value
  if plan.fileSize < length then throw (.improperRecord .tooLong)
  if ← atEnd then return none
  let body ← position
  if plan.fileSize < body + length ∨ body + length < plan.start then return none
  return some { type, body, length }

/-- Reads what stands in front of the body of a record of level two. -/
def frontTwo (offset : Nat) : WalkM σ (Option RecordFront) := do
  let _ ← require (ByteSource.seek (.start offset))
  let some _class ← attempt ByteSource.next | return none
  let some type ← attempt ByteSource.next | return none
  let _extension ← read VarInt.read
  let length := (← read VarInt.read).value
  if ← atEnd then return none
  return some { type, body := ← position, length }

/-- Reads what stands in front of the body of the record at an offset. -/
def front (plan : WalkPlan) (offset : Nat) : WalkM σ (Option RecordFront) :=
  match plan.level with
  | .one => frontOne plan offset
  | .two => frontTwo offset

/-- Reads the body of a record of level one, up to the raster of a bitmap. -/
def inspectOne (front : RecordFront) : WalkM σ (Option Bitmap) := do
  match front.type with
  | 0x0B => return some (← onSource Bitmap.readPlain)
  | 0x14 => return some (← onSource Bitmap.readPlaced)
  | 0x0E => readPalette .one front.length; return none
  | 0x11 => note front.type front.body front.length 8; return none
  | 0x1B => note front.type front.body front.length 0x3C; return none
  | _ => return none

/-- Reads the body of a record of level two, up to the raster of a bitmap. -/
def inspectTwo (front : RecordFront) : WalkM σ (Option Bitmap) := do
  match front.type with
  | 0x01 =>
    let _horizontalUnits ← read ByteSource.u16LE
    let _verticalUnits ← read ByteSource.u16LE
    let precision ← read ByteSource.nextOrZero
    modify fun walk => { walk with precision }
    return none
  | 0x0C => readPalette .two front.length; return none
  | 0x0E => onSource (Bitmap.readCoded (← get).transform)
  | 0x12 =>
    let skip ← read ByteSource.u16LE
    note front.type (front.body + 2) (front.length - 2) skip.toNat
    return none
  | 0x1B =>
    let transform ← read (Transform.read (← get).precision)
    modify fun walk => { walk with transform }
    return none
  | _ => return none

/-- Reads the body of a record, up to the raster of a bitmap. -/
def inspect (level : Level) (front : RecordFront) : WalkM σ (Option Bitmap) :=
  match level with
  | .one => inspectOne front
  | .two => inspectTwo front

/-- **Scans the record at an offset.** -/
def scan (plan : WalkPlan) (offset : Nat) : WalkM σ Found := do
  let some front ← front plan offset | return .ended
  return .ofBitmap? front.next (← inspect plan.level front)

/-! ## Settling -/

/-- Hands on the bitmap of a record, if it has one, and answers whether the
walk goes on. -/
def handOn (plan : WalkPlan) : Option Bitmap → WalkM σ Bool
  | some bitmap => handleBitmap plan bitmap
  | none => return true

/-- **Settles what becomes of a record that was found**, and answers the offset
of the next one, unless the walk ends. -/
def settle (plan : WalkPlan) : Found → WalkM σ (Option Nat)
  | .ended => return none
  | .passed next => return some next
  | .bitmap bitmap next => do
    if ← handleBitmap plan bitmap then return some next else return none

theorem settle_ofBitmap? (plan : WalkPlan) (next : Nat) (bitmap? : Option Bitmap) :
    (settle plan (.ofBitmap? next bitmap?) : WalkM σ (Option Nat)) = (do
      if ← handOn plan bitmap? then return some next else return none) := by
  cases bitmap? <;> rfl

/-! ## Steps -/

/-- A record of level one is inspected, and its bitmap is handed on. -/
theorem handleOne_eq_inspect (plan : WalkPlan) (type : UInt8) (body length : Nat) :
    (handleOne plan type body length : WalkM σ Bool)
      = inspectOne { type, body, length } >>= handOn plan := by
  unfold handleOne
  split
  case h_6 =>
    -- the type is none of those above
    unfold inspectOne
    split
    case h_6 => rfl
    all_goals contradiction
  all_goals
    rw [inspectOne]
    simp only [bind_assoc, pure_bind, handOn]

/-- So is one of level two. -/
theorem handleTwo_eq_inspect (plan : WalkPlan) (type : UInt8) (body length : Nat) :
    (handleTwo plan type body length : WalkM σ Bool)
      = inspectTwo { type, body, length } >>= handOn plan := by
  unfold handleTwo
  split
  case h_6 =>
    unfold inspectTwo
    split
    case h_6 => rfl
    all_goals contradiction
  case h_3 =>
    simp only [inspectTwo, bind_assoc]
    refine bind_congr fun _ => bind_congr fun bitmap? => ?_
    cases bitmap? <;> rfl
  all_goals
    rw [inspectTwo]
    simp only [bind_assoc, pure_bind, handOn]

theorem stepOne_eq_scan {plan : WalkPlan} (level : plan.level = .one) (offset : Nat) :
    (stepOne plan offset : WalkM σ (Option Nat)) = scan plan offset >>= settle plan := by
  unfold stepOne scan front inspect
  rw [level]
  dsimp only
  unfold frontOne
  simp only [bind_assoc]
  refine bind_congr fun _ => bind_congr fun type? => ?_
  cases type? with
  | none => rfl
  | some type =>
    simp only [bind_assoc]
    refine bind_congr fun length => ?_
    by_cases long : plan.fileSize < length.value
    · rw [if_pos long, if_pos long]
      rfl
    rw [if_neg long, if_neg long, bind_assoc]
    refine bind_congr fun ended => ?_
    cases ended with
    | true => rfl
    | false =>
      simp only [Bool.false_eq_true, if_false, bind_assoc]
      refine bind_congr fun body => ?_
      split
      · rfl
      · simp only [pure_bind, bind_assoc, handleOne_eq_inspect, settle_ofBitmap?]
        rfl

theorem stepTwo_eq_scan {plan : WalkPlan} (level : plan.level = .two) (offset : Nat) :
    (stepTwo plan offset : WalkM σ (Option Nat)) = scan plan offset >>= settle plan := by
  unfold stepTwo scan front inspect
  rw [level]
  dsimp only
  unfold frontTwo
  simp only [bind_assoc]
  refine bind_congr fun _ => bind_congr fun class? => ?_
  cases class? with
  | none => rfl
  | some _ =>
    simp only [bind_assoc]
    refine bind_congr fun type? => ?_
    cases type? with
    | none => rfl
    | some type =>
      simp only [bind_assoc]
      refine bind_congr fun _ => bind_congr fun length => bind_congr fun ended => ?_
      cases ended with
      | true => rfl
      | false =>
        simp only [Bool.false_eq_true, if_false, bind_assoc, pure_bind, handleTwo_eq_inspect,
          settle_ofBitmap?]
        rfl

/-- **A step scans a record and settles what becomes of it.** -/
theorem step_eq_scan (plan : WalkPlan) (offset : Nat) :
    (step plan offset : WalkM σ (Option Nat)) = scan plan offset >>= settle plan := by
  unfold step
  split
  · next level => exact stepOne_eq_scan level offset
  · next level => exact stepTwo_eq_scan level offset

end Walk

end WpgRaster
