import Mathlib.Data.List.Forall2
import WpgRaster.Proofs.Container.Records

/-!
# Walking over records

A walk that stands where a list of records begins (`RecordsAt`) handles the
first one and then stands where the others begin, whatever its handler did
with the source (`Walk.step_of_record`). It looks at the first
`Decoder.maxFileSize` bytes of the file only, and ends at a record that is
not within reach (`Walk.steps_of_not_withinReach`). By induction over the
list, it delivers a frame for every picture of the records that are
(`Walk.steps_shows`), or ends at the first bitmap if only the header is
wanted (`Walk.steps_headersOnly`).
-/

namespace WpgRaster

/-! ## Where records begin -/

/-- **Records that begin at an offset of a file** and end with the file. The
last body is not empty. -/
structure RecordsAt (plan : WalkPlan) (file : Bytes) (offset : Nat)
    (records : List (Record plan.level)) : Prop where
  /-- The records are all that is left of the file. -/
  left : file.toList.drop offset = records.flatMap Record.bytes
  /-- The plan knows how much of the file is looked at. -/
  fileSize : plan.fileSize = min file.size Decoder.maxFileSize
  /-- The walk began in front of the records. -/
  start : plan.start ≤ offset
  /-- The last body is not empty. -/
  ends : ∀ record ∈ records.getLast?, record.body.bytes ≠ []

namespace RecordsAt

variable {plan : WalkPlan} {file : Bytes} {offset : Nat} {record : Record plan.level}
  {rest : List (Record plan.level)}

/-- Behind all records the file ends. -/
theorem size_le (here : RecordsAt plan file offset []) : plan.fileSize ≤ offset := by
  have ended : file.toList.length ≤ offset := List.drop_eq_nil_iff.mp here.left
  rw [Array.length_toList] at ended
  rw [here.fileSize]
  exact Nat.le_trans (Nat.min_le_left _ _) ended

variable (here : RecordsAt plan file offset (record :: rest))

include here

/-- The first record lies in front of the others. -/
theorem left_cons : file.toList.drop offset = record.bytes ++ rest.flatMap Record.bytes :=
  here.left.trans List.flatMap_cons

/-- It lies inside the file. -/
theorem add_length_le : offset + record.bytes.length ≤ file.size := by
  have length := congrArg List.length here.left_cons
  rw [List.length_drop, Array.length_toList, List.length_append] at length
  have := record.length_bytes_pos
  omega

/-- What is within reach does not depend on how long the file is. -/
theorem withinReach_iff :
    record.WithinReach plan.fileSize offset ↔ record.WithinReach Decoder.maxFileSize offset := by
  have inside := here.add_length_le
  have some := record.length_bytes_pos
  rw [here.fileSize]
  clear here
  obtain ⟨options, level, start, fileSize, headersOnly⟩ := plan
  cases level with
  | one =>
    show offset + record.bytes.length ≤ min _ _ ↔ offset + record.bytes.length ≤ _
    omega
  | two =>
    show offset < min _ _ ↔ offset < _
    omega

/-- Behind it begin the others. -/
theorem next : RecordsAt plan file (offset + record.bytes.length) rest where
  left := by rw [← List.drop_drop, here.left_cons, List.drop_left]
  fileSize := here.fileSize
  start := Nat.le_add_right_of_le here.start
  ends last among := by
    refine here.ends last ?_
    cases rest with
    | nil => cases among
    | cons other rest => exact among

/-- There is something behind the front of a record. -/
theorem body_ne_nil : record.body.bytes ++ rest.flatMap Record.bytes ≠ [] := by
  intro none
  obtain ⟨empty, others⟩ := List.append_eq_nil_iff.mp none
  cases rest with
  | nil => exact here.ends record rfl empty
  | cons other rest =>
    rw [List.flatMap_cons] at others
    have length := congrArg List.length (List.append_eq_nil_iff.mp others).1
    exact Nat.ne_of_gt other.length_bytes_pos length

omit here in
/-- The walk reaches what is within reach of every file that long. -/
theorem reachedFrom_eq {records : List (Record plan.level)}
    (here : RecordsAt plan file offset records) :
    reachedFrom plan.fileSize offset records
      = reachedFrom Decoder.maxFileSize offset records := by
  induction records generalizing offset with
  | nil => rfl
  | cons record rest ih =>
    rw [reachedFrom, reachedFrom, ih here.next]
    exact if_congr here.withinReach_iff rfl rfl

end RecordsAt

namespace Walk

variable {plan : WalkPlan} {walk : Walk Cursor} {offset : Nat}

/-! ## One record -/

/-- A walk is not at its end where bytes are left. -/
theorem atEnd_of_ne_nil {position : Nat} (some : (walk.moveTo position).source.rest ≠ []) :
    atEnd (walk.moveTo position) = .ok false (walk.moveTo position) := by
  have more : ¬ walk.source.bytes.size ≤ position := fun beyond =>
    some (List.drop_eq_nil_of_le (by rwa [Array.length_toList]))
  have inside : ByteSource.atEnd (walk.moveTo position).source = .ok false :=
    congrArg Except.ok (decide_eq_false more)
  unfold atEnd
  rw [inside]

/-- What follows once the front of a record was read. -/
def proceed (handled : WalkM Cursor Bool) (next : Nat) : WalkM Cursor (Option Nat) := do
  if ← handled then return some next else return none

theorem stepOne_eq {type : UInt8} {size : VarInt.Form} {rest : List UInt8}
    (left : (walk.moveTo offset).source.rest = [type] ++ (size.bytes ++ rest)) (more : rest ≠ [])
    (start : plan.start ≤ offset) (short : size.value ≤ plan.fileSize) :
    stepOne plan offset walk
      = (if plan.fileSize < offset + 1 + size.bytes.length + size.value then pure none
        else proceed (handleOne plan type (offset + 1 + size.bytes.length) size.value)
          (offset + 1 + size.bytes.length + size.value))
        (walk.moveTo (offset + 1 + size.bytes.length)) := by
  have sought : require (ByteSource.seek (.start offset)) walk = .ok offset (walk.moveTo offset) :=
    rfl
  have typed : attempt ByteSource.next (walk.moveTo offset) = .ok (some type)
      (walk.moveTo (offset + 1)) := attempt_parses (ByteSource.next_parses type) left
  have behind : (walk.moveTo (offset + 1)).source.rest = size.bytes ++ rest :=
    rest_moveTo_append left
  have sized : Walk.read VarInt.read (walk.moveTo (offset + 1))
      = .ok ⟨size.value, size.bytes.length⟩ (walk.moveTo (offset + 1 + size.bytes.length)) :=
    onSource_parses size.parses behind
  have body := rest_moveTo_append behind
  have inside := atEnd_of_ne_nil (body.symm ▸ more)
  have here : position (walk.moveTo (offset + 1 + size.bytes.length))
      = .ok (offset + 1 + size.bytes.length) (walk.moveTo (offset + 1 + size.bytes.length)) := rfl
  have forward : (plan.fileSize < offset + 1 + size.bytes.length + size.value
        ∨ offset + 1 + size.bytes.length + size.value < plan.start)
      ↔ plan.fileSize < offset + 1 + size.bytes.length + size.value :=
    or_iff_left (by omega)
  unfold stepOne
  rw [bind_of_ok sought, bind_of_ok typed]
  dsimp only
  rw [bind_of_ok sized]
  dsimp only
  rw [if_neg (Nat.not_lt.mpr short), bind_of_ok inside, if_neg Bool.false_ne_true,
    bind_of_ok here, if_congr forward rfl rfl]
  rfl

theorem stepTwo_eq {kind type : UInt8} {extension size : VarInt.Form} {rest : List UInt8}
    (left : (walk.moveTo offset).source.rest
      = [kind] ++ ([type] ++ (extension.bytes ++ (size.bytes ++ rest))))
    (more : rest ≠ []) :
    stepTwo plan offset walk
      = proceed (handleTwo plan type (offset + 1 + 1 + extension.bytes.length + size.bytes.length)
          size.value)
        (offset + 1 + 1 + extension.bytes.length + size.bytes.length + size.value)
        (walk.moveTo (offset + 1 + 1 + extension.bytes.length + size.bytes.length)) := by
  have sought : require (ByteSource.seek (.start offset)) walk = .ok offset (walk.moveTo offset) :=
    rfl
  have classed : attempt ByteSource.next (walk.moveTo offset) = .ok (some kind)
      (walk.moveTo (offset + 1)) := attempt_parses (ByteSource.next_parses kind) left
  have behind : (walk.moveTo (offset + 1)).source.rest
      = [type] ++ (extension.bytes ++ (size.bytes ++ rest)) := rest_moveTo_append left
  have typed : attempt ByteSource.next (walk.moveTo (offset + 1)) = .ok (some type)
      (walk.moveTo (offset + 1 + 1)) := attempt_parses (ByteSource.next_parses type) behind
  have behind' : (walk.moveTo (offset + 1 + 1)).source.rest
      = extension.bytes ++ (size.bytes ++ rest) := rest_moveTo_append behind
  have extended : Walk.read VarInt.read (walk.moveTo (offset + 1 + 1))
      = .ok ⟨extension.value, extension.bytes.length⟩
        (walk.moveTo (offset + 1 + 1 + extension.bytes.length)) :=
    onSource_parses extension.parses behind'
  have behind'' := rest_moveTo_append behind'
  have sized : Walk.read VarInt.read (walk.moveTo (offset + 1 + 1 + extension.bytes.length))
      = .ok ⟨size.value, size.bytes.length⟩
        (walk.moveTo (offset + 1 + 1 + extension.bytes.length + size.bytes.length)) :=
    onSource_parses size.parses behind''
  have body := rest_moveTo_append behind''
  have inside := atEnd_of_ne_nil (body.symm ▸ more)
  have here : position (walk.moveTo (offset + 1 + 1 + extension.bytes.length + size.bytes.length))
      = .ok (offset + 1 + 1 + extension.bytes.length + size.bytes.length)
        (walk.moveTo (offset + 1 + 1 + extension.bytes.length + size.bytes.length)) := rfl
  unfold stepTwo
  rw [bind_of_ok sought, bind_of_ok classed]
  dsimp only
  rw [bind_of_ok typed]
  dsimp only
  rw [bind_of_ok extended, bind_of_ok sized, bind_of_ok inside, if_neg Bool.false_ne_true,
    bind_of_ok here]
  rfl

/-- **A record that is found**: if it is within reach, then its handler runs
where the body begins, and the walk then goes on behind the body or ends.
Otherwise the walk ends in front of the body. -/
theorem step_of_record {file : Bytes} {record : Record plan.level}
    {rest : List (Record plan.level)} (here : RecordsAt plan file offset (record :: rest))
    (bytes : walk.source.bytes = file) (inside : offset < plan.fileSize) :
    step plan offset walk
      = (if record.WithinReach plan.fileSize offset then
          proceed (handle plan record.body.type (offset + record.front.length)
            record.body.bytes.length) (offset + record.bytes.length)
        else pure none) (walk.moveTo (offset + record.front.length)) := by
  have left : (walk.moveTo offset).source.rest
      = record.front ++ (record.body.bytes ++ rest.flatMap Record.bytes) := by
    rw [← List.append_assoc]
    show walk.source.bytes.toList.drop offset = _
    rw [bytes]
    exact here.left_cons
  have more := here.body_ne_nil
  have start := here.start
  have behind : offset + record.bytes.length
      = offset + record.front.length + record.body.bytes.length := by
    rw [Nat.add_assoc, ← List.length_append]
    rfl
  -- no length is larger than what is looked at of a file, which is all of it or has 32 bits
  have short : record.size.value ≤ plan.fileSize := by
    have fits := here.add_length_le
    have small := record.size.value_lt
    rw [behind, ← record.size_eq] at fits
    rw [here.fileSize]
    unfold Decoder.maxFileSize
    omega
  clear here
  obtain ⟨options, level, first, fileSize, headersOnly⟩ := plan
  obtain ⟨mark, size, body, size_eq⟩ := record
  cases mark with
  | one =>
    have front : offset + (body.type :: size.bytes).length = offset + 1 + size.bytes.length := by
      rw [List.length_cons, Nat.add_comm size.bytes.length, Nat.add_assoc]
    have reached : Record.WithinReach fileSize offset ⟨.one, size, body, size_eq⟩
        ↔ ¬ fileSize < offset + 1 + size.bytes.length + size.value := by
      rw [← front, size_eq, Nat.not_lt]
      exact iff_of_eq (congrArg (· ≤ fileSize) behind)
    rw [if_congr reached rfl rfl, ite_not, behind, ← size_eq]
    show stepOne _ offset walk = (if _ then _ else proceed (handleOne _ body.type
      (offset + (body.type :: size.bytes).length) size.value)
      (offset + (body.type :: size.bytes).length + size.value))
      (walk.moveTo (offset + (body.type :: size.bytes).length))
    rw [front]
    exact stepOne_eq left more start short
  | two kind extension =>
    have front : offset + (kind :: body.type :: (extension.bytes ++ size.bytes)).length
        = offset + 1 + 1 + extension.bytes.length + size.bytes.length := by
      rw [List.length_cons, List.length_cons, List.length_append]
      omega
    rw [if_pos (show Record.WithinReach fileSize offset ⟨.two kind extension, size, body, size_eq⟩
      from inside), behind, ← size_eq]
    show stepTwo _ offset walk = proceed (handleTwo _ body.type
      (offset + (kind :: body.type :: (extension.bytes ++ size.bytes)).length) size.value)
      (offset + (kind :: body.type :: (extension.bytes ++ size.bytes)).length + size.value)
      (walk.moveTo (offset + (kind :: body.type :: (extension.bytes ++ size.bytes)).length))
    have left' : (walk.moveTo offset).source.rest = [kind] ++ ([body.type] ++ (extension.bytes
        ++ (size.bytes ++ (body.bytes ++ rest.flatMap Record.bytes)))) := by
      rw [left, ← List.append_assoc extension.bytes]
      rfl
    rw [front]
    exact stepTwo_eq left' more

/-- A record within reach is handled. -/
theorem step_of_withinReach {file : Bytes} {record : Record plan.level}
    {rest : List (Record plan.level)} (here : RecordsAt plan file offset (record :: rest))
    (bytes : walk.source.bytes = file) (reached : record.WithinReach plan.fileSize offset) :
    step plan offset walk
      = proceed (handle plan record.body.type (offset + record.front.length)
          record.body.bytes.length)
        (offset + record.bytes.length) (walk.moveTo (offset + record.front.length)) := by
  rw [step_of_record here bytes reached.lt, if_pos reached]

end Walk

/-! ## Records and their pictures -/

/-- The pictures of a record, behind the palette that is loaded. -/
def Record.pictures {level : Level} (record : Record level) (loaded : Option (PaletteBody level)) :
    List (Picture level) :=
  match record.body with
  | .bitmap body => [⟨body, loaded⟩]
  | _ => []

/-- The palette that is loaded behind a record. -/
def Record.load {level : Level} (record : Record level) (loaded : Option (PaletteBody level)) :
    Option (PaletteBody level) :=
  match record.body with
  | .bitmap _ => none
  | .palette body => some body
  | .other .. => loaded

/-- A record has no picture, or it is a bitmap. -/
theorem Record.pictures_cases {level : Level} (record : Record level)
    (loaded : Option (PaletteBody level)) :
    record.pictures loaded = [] ∨ ∃ bitmap, record.body = .bitmap bitmap
      ∧ record.pictures loaded = [⟨bitmap, loaded⟩] ∧ record.load loaded = none := by
  unfold pictures load
  cases record.body with
  | bitmap bitmap => exact .inr ⟨bitmap, rfl, rfl, rfl⟩
  | palette body => exact .inl rfl
  | other => exact .inl rfl

theorem picturesFrom_cons {level : Level} (loaded : Option (PaletteBody level))
    (record : Record level) (rest : List (Record level)) :
    picturesFrom loaded (record :: rest)
      = record.pictures loaded ++ picturesFrom (record.load loaded) rest := by
  unfold Record.pictures Record.load
  rw [picturesFrom]
  cases record.body with
  | bitmap body => rfl
  | palette body => rfl
  | other => rfl

namespace Walk

variable {plan : WalkPlan} {walk : Walk Cursor} {offset : Nat} {file : Bytes}

/-- **A walk between two records**: it has shown pictures, and a palette is
loaded for the next one, or none. -/
structure Between (plan : WalkPlan) (file : Bytes) (shown : List (Picture plan.level))
    (loaded : Option (PaletteBody plan.level)) (walk : Walk Cursor) : Prop where
  /-- It walks over the file. -/
  bytes : walk.source.bytes = file
  /-- Nobody stops it. -/
  silent : walk.stop.Silent
  /-- The palette is loaded. -/
  palette : walk.palette = (loaded.map PaletteBody.palette).getD plan.level.emptyPalette
  /-- Nothing was wrong with it. -/
  sound : walk.paletteError = none
  /-- The frames show the pictures. -/
  frames : List.Forall₂ Picture.ShownBy shown walk.frames.toList

variable {shown : List (Picture plan.level)} {loaded : Option (PaletteBody plan.level)}
  {record : Record plan.level} {rest : List (Record plan.level)}

theorem Between.moveTo (between : Between plan file shown loaded walk) (position : Nat) :
    Between plan file shown loaded (walk.moveTo position) :=
  ⟨between.bytes, between.silent, between.palette, between.sound, between.frames⟩

/-- A walk that is alike is between the same records. -/
theorem Between.of_alike (between : Between plan file shown loaded walk) {walk' : Walk Cursor}
    (alike : Alike walk walk') : Between plan file shown loaded walk' where
  bytes := alike.bytes.trans between.bytes
  silent := alike.stop ▸ between.silent
  palette := alike.palette.trans between.palette
  sound := alike.paletteError.trans between.sound
  frames := alike.frames ▸ between.frames

/-- What was handled well is followed by the next record, or by none. -/
theorem proceed_of_ok {handled : WalkM Cursor Bool} {more : Bool} {walk' : Walk Cursor}
    (ok : handled walk = .ok more walk') (next : Nat) :
    proceed handled next walk = .ok (if more then some next else none) walk' := by
  unfold proceed
  rw [bind_of_ok ok]
  cases more <;> rfl

/-- The body of a record begins behind its front. -/
theorem rest_body (here : RecordsAt plan file offset (record :: rest))
    (between : Between plan file shown loaded walk) :
    (walk.moveTo (offset + record.front.length)).source.rest
      = record.body.bytes ++ rest.flatMap Record.bytes := by
  refine rest_moveTo_append ?_
  rw [← List.append_assoc]
  show walk.source.bytes.toList.drop offset = _
  rw [between.bytes]
  exact here.left_cons

/-- **A record without a picture** is handled, and the walk goes on. -/
theorem step_of_pictures_eq_nil (here : RecordsAt plan file offset (record :: rest))
    (reached : record.WithinReach plan.fileSize offset)
    (between : Between plan file shown loaded walk) (nothing : record.pictures loaded = []) :
    ∃ walk', step plan offset walk = .ok (some (offset + record.bytes.length)) walk'
      ∧ Between plan file shown (record.load loaded) walk' := by
  have left := rest_body here between
  have handled : ∃ walk', handle plan record.body.type (offset + record.front.length)
        record.body.bytes.length (walk.moveTo (offset + record.front.length)) = .ok true walk'
      ∧ Between plan file shown (record.load loaded) walk' := by
    unfold Record.pictures at nothing
    unfold Record.load
    cases body : record.body with
    | bitmap bitmap =>
      rw [body] at nothing
      cases nothing
    | palette palette =>
      rw [body] at left
      obtain ⟨position, handled⟩ := handle_palette palette left between.sound
      exact ⟨_, handled, between.bytes, between.silent, rfl, rfl, between.frames⟩
    | other type bytes passed passed' =>
      obtain ⟨walk', handled, alike⟩ := handle_other plan passed passed'
        (offset + record.front.length) bytes.length (walk.moveTo (offset + record.front.length))
      exact ⟨walk', handled, (between.moveTo _).of_alike alike⟩
  obtain ⟨walk', handled, between'⟩ := handled
  refine ⟨walk', ?_, between'⟩
  rw [step_of_withinReach here between.bytes reached, proceed_of_ok handled]
  rfl

section

variable (options : plan.options = Options.safe)
  (here : RecordsAt plan file offset (record :: rest))
  (within : record.WithinReach plan.fileSize offset)
  (between : Between plan file shown loaded walk) {bitmap : BitmapBody plan.level}
  (body : record.body = .bitmap bitmap)

include options here within between body

/-- **A bitmap becomes a frame** that shows it, and the walk goes on without
a palette. -/
theorem step_shows (headersOnly : plan.headersOnly = false)
    (complete : (⟨bitmap, loaded⟩ : Picture _).IsComplete) :
    ∃ walk', step plan offset walk = .ok (some (offset + record.bytes.length)) walk'
      ∧ Between plan file (shown ++ [⟨bitmap, loaded⟩]) none walk' := by
  have left := rest_body here between
  have reached := step_of_withinReach here between.bytes within
  rw [body] at left reached
  obtain ⟨described, describes, handled⟩ := handle_bitmap bitmap left
  have raster : (walk.moveTo (offset + record.front.length + bitmap.front.bytes.length)).source.rest
      = bitmap.raster ++ rest.flatMap Record.bytes :=
    rest_moveTo_append (left.trans (List.append_assoc ..))
  have moved := between.moveTo (offset + record.front.length + bitmap.front.bytes.length)
  obtain ⟨frame, source, stop, became, shows, bytes, silent⟩ :=
    handleBitmap_shows options describes headersOnly complete moved.palette moved.sound
      moved.silent raster
  refine ⟨_, reached.trans (proceed_of_ok (handled.trans became) _), ?_⟩
  exact
    { bytes := bytes.trans between.bytes
      silent := silent
      palette := rfl
      sound := rfl
      frames := by
        rw [Array.toList_push]
        exact List.rel_append between.frames (.cons shows .nil) }

/-- If only the header is wanted, the walk ends at a bitmap. -/
theorem step_headersOnly (headersOnly : plan.headersOnly = true) :
    ∃ walk', step plan offset walk = .ok none walk' ∧ walk'.source.bytes = file := by
  have left := rest_body here between
  have reached := step_of_withinReach here between.bytes within
  rw [body] at left reached
  obtain ⟨described, describes, handled⟩ := handle_bitmap bitmap left
  have ended := handleBitmap_headersOnly options describes headersOnly
    (walk.moveTo (offset + record.front.length + bitmap.front.bytes.length))
  exact ⟨_, reached.trans (proceed_of_ok (handled.trans ended) _), between.bytes⟩

end

/-! ## All records -/

/-- The walk ends where the file does. -/
theorem steps_of_size_le (beyond : plan.fileSize ≤ offset) (fuel : Nat) :
    steps plan fuel offset walk = .ok () walk := by
  cases fuel with
  | zero => rfl
  | succ fuel =>
    unfold steps
    rw [if_pos beyond]
    rfl

/-- A record is followed by the others. -/
theorem steps_of_some {fuel next : Nat} {walk' : Walk Cursor} (inside : offset < plan.fileSize)
    (stepped : step plan offset walk = .ok (some next) walk') :
    steps plan (fuel + 1) offset walk = steps plan fuel next walk' := by
  rw [steps, if_neg (Nat.not_le.mpr inside), bind_of_ok stepped]

/-- Or the walk ends. -/
theorem steps_of_none {fuel : Nat} {walk' : Walk Cursor} (inside : offset < plan.fileSize)
    (stepped : step plan offset walk = .ok none walk') :
    steps plan (fuel + 1) offset walk = .ok () walk' := by
  unfold steps
  rw [if_neg (Nat.not_le.mpr inside), bind_of_ok stepped]
  rfl

/-- **A walk ends at a record that is not within reach**, and has seen nothing
of it. -/
theorem steps_of_not_withinReach (here : RecordsAt plan file offset (record :: rest))
    (beyond : ¬ record.WithinReach plan.fileSize offset) (bytes : walk.source.bytes = file)
    (fuel : Nat) :
    ∃ walk', steps plan fuel offset walk = .ok () walk' ∧ Alike walk walk' := by
  by_cases inside : offset < plan.fileSize
  · cases fuel with
    | zero => exact ⟨walk, rfl, .refl walk⟩
    | succ fuel =>
      have stepped := step_of_record here bytes inside
      rw [if_neg beyond] at stepped
      exact ⟨_, steps_of_none inside stepped, rfl, rfl, rfl, rfl, rfl⟩
  · exact ⟨walk, steps_of_size_le (Nat.le_of_not_lt inside) fuel, .refl walk⟩

variable {records : List (Record plan.level)} (options : plan.options = Options.safe)

include options

/-- **A walk shows all pictures within reach.** -/
theorem steps_shows (headersOnly : plan.headersOnly = false) {fuel : Nat}
    (here : RecordsAt plan file offset records) (enough : plan.fileSize - offset ≤ fuel)
    (between : Between plan file shown loaded walk)
    (complete : ∀ picture ∈ picturesFrom loaded (reachedFrom plan.fileSize offset records),
      picture.IsComplete) :
    ∃ walk', steps plan fuel offset walk = .ok () walk' ∧ walk'.source.bytes = file
      ∧ List.Forall₂ Picture.ShownBy
        (shown ++ picturesFrom loaded (reachedFrom plan.fileSize offset records))
        walk'.frames.toList := by
  induction records generalizing offset fuel shown loaded walk with
  | nil =>
    refine ⟨walk, steps_of_size_le here.size_le fuel, between.bytes, ?_⟩
    rw [reachedFrom, picturesFrom, List.append_nil]
    exact between.frames
  | cons record rest ih =>
    unfold reachedFrom at complete ⊢
    by_cases reached : record.WithinReach plan.fileSize offset
    case neg =>
      obtain ⟨walk', ended, alike⟩ := steps_of_not_withinReach here reached between.bytes fuel
      rw [if_neg reached, picturesFrom, List.append_nil]
      exact ⟨walk', ended, (between.of_alike alike).bytes, (between.of_alike alike).frames⟩
    rw [if_pos reached] at complete ⊢
    have inside := reached.lt
    have some := record.length_bytes_pos
    obtain ⟨fuel, rfl⟩ : ∃ fewer, fuel = fewer + 1 := ⟨fuel - 1, by omega⟩
    rw [picturesFrom_cons] at complete ⊢
    rw [← List.append_assoc]
    suffices stepped : ∃ walk', step plan offset walk
          = .ok (Option.some (offset + record.bytes.length)) walk'
        ∧ Between plan file (shown ++ record.pictures loaded) (record.load loaded) walk' by
      obtain ⟨walk', stepped, between'⟩ := stepped
      rw [steps_of_some inside stepped]
      exact ih here.next (by omega) between' fun picture among =>
        complete picture (List.mem_append_right _ among)
    obtain nothing | ⟨bitmap, body, pictures, load⟩ := record.pictures_cases loaded
    · rw [nothing, List.append_nil]
      exact step_of_pictures_eq_nil here reached between nothing
    · rw [pictures] at complete ⊢
      rw [load]
      exact step_shows options here reached between body headersOnly
        (complete _ (List.mem_append_left _ List.mem_cons_self))

/-- **A walk for the header goes well**, whatever the bitmaps look like. -/
theorem steps_headersOnly (headersOnly : plan.headersOnly = true) {fuel : Nat}
    (here : RecordsAt plan file offset records) (enough : plan.fileSize - offset ≤ fuel)
    (between : Between plan file shown loaded walk) :
    ∃ walk', steps plan fuel offset walk = .ok () walk' ∧ walk'.source.bytes = file := by
  induction records generalizing offset fuel loaded walk with
  | nil => exact ⟨walk, steps_of_size_le here.size_le fuel, between.bytes⟩
  | cons record rest ih =>
    by_cases reached : record.WithinReach plan.fileSize offset
    case neg =>
      obtain ⟨walk', ended, alike⟩ := steps_of_not_withinReach here reached between.bytes fuel
      exact ⟨walk', ended, (between.of_alike alike).bytes⟩
    have inside := reached.lt
    have some := record.length_bytes_pos
    obtain ⟨fuel, rfl⟩ : ∃ fewer, fuel = fewer + 1 := ⟨fuel - 1, by omega⟩
    obtain nothing | ⟨bitmap, body, -, -⟩ := record.pictures_cases loaded
    · obtain ⟨walk', stepped, between'⟩ := step_of_pictures_eq_nil here reached between nothing
      rw [steps_of_some inside stepped]
      exact ih here.next (by omega) between'
    · obtain ⟨walk', stepped, bytes⟩ :=
        step_headersOnly options here reached between body headersOnly
      exact ⟨walk', steps_of_none inside stepped, bytes⟩

end Walk

end WpgRaster
