import WpgRaster.Proofs.Container.Colors
import WpgRaster.Proofs.Container.Passing

/-!
# What palette records leave behind

A palette record says where its colours belong and which they are
(`PaletteRecord`). It loads a palette, or it has a fault that is kept for the next
bitmap (`Walk.readPalette_leaves`). What a list of such records hands over with a
bitmap is settled by one of them (`PaletteRecord.handed`): a record replaces what was
there before it, the palette as well as the fault. There is an exception. At level
one a record without entries unloads the palette but has no fault of its own, and
then the fault of an earlier record stays.
-/

namespace WpgRaster

/-- **A palette record.** -/
structure PaletteRecord where
  /-- The offset of its body. -/
  body : Nat
  /-- The length of its body. -/
  length : Nat
  /-- The index of the first entry. -/
  start : Nat
  /-- The number of entries. -/
  count : Nat
  /-- The bytes of the entries, zeros if they are missing. Those of a record with a
  fault are not read. -/
  data : Bytes
  deriving DecidableEq, Repr

namespace PaletteRecord

variable (level : Level)

/-- **Why the palette of a record cannot be loaded.** No entries are too few at level
two; at level one they make an empty palette. -/
def fault? (record : PaletteRecord) : Option RasterError :=
  if record.count = 0 then
    match level with
    | .one => none
    | .two => some (.paletteOverflow record.start 0 level.paletteCapacity)
  else Walk.paletteFault? level record.length record.start record.count

/-- **The palette of a record**, which has black in front of the first index. -/
def palette (record : PaletteRecord) : Palette :=
  if record.count = 0 then level.emptyPalette
  else
    { entries := Palette.write record.data (Walk.entryStride level) record.start record.count
        (Array.replicate (record.start + record.count) .black)
      capacity := level.paletteCapacity }

/-! ## Lists of records -/

/-- The records that say whether a palette can be loaded. At level one, those without
entries do not. -/
def decisive (records : List PaletteRecord) : List PaletteRecord :=
  match level with
  | .one => records.filter (·.count ≠ 0)
  | .two => records

/-- **The fault that is pending** behind some records: that of the last one that has a
say. -/
def pending? (records : List PaletteRecord) : Option RasterError :=
  (decisive level records).getLast?.bind (fault? level)

/-- The palette that is loaded behind some records, unless a fault is pending: that of
the last one. -/
def loaded (records : List PaletteRecord) : Palette :=
  match records.getLast? with
  | some last => last.palette level
  | none => level.emptyPalette

/-- **What some records hand over with a bitmap.** -/
def handed (records : List PaletteRecord) : Except RasterError Palette :=
  match pending? level records with
  | some err => .error err
  | none => .ok (loaded level records)

/-- Without records, an empty palette is handed over. -/
theorem handed_nil : handed level [] = .ok level.emptyPalette := by
  cases level <;> rfl

/-- **A record settles whether a fault is pending**, unless it is one without entries
at level one. -/
theorem pending?_append (records : List PaletteRecord) (last : PaletteRecord) :
    pending? level (records ++ [last]) =
      if level = .one ∧ last.count = 0 then pending? level records else last.fault? level := by
  unfold pending? decisive
  cases level with
  | one =>
    dsimp only
    rw [List.filter_append]
    by_cases empty : last.count = 0
    · rw [if_pos ⟨rfl, empty⟩, List.filter_cons_of_neg (by simpa using empty), List.filter_nil,
        List.append_nil]
    · rw [if_neg (fun both => empty both.2), List.filter_cons_of_pos (by simpa using empty),
        List.filter_nil, List.getLast?_concat]
      rfl
  | two =>
    dsimp only
    rw [if_neg (fun both => nomatch both.1), List.getLast?_concat]
    rfl

/-- The last record is the one whose palette is loaded. -/
theorem loaded_append (records : List PaletteRecord) (last : PaletteRecord) :
    loaded level (records ++ [last]) = last.palette level := by
  unfold loaded
  rw [List.getLast?_concat]

/-- A record alone. -/
theorem pending?_singleton (last : PaletteRecord) :
    pending? level [last] = last.fault? level := by
  refine (pending?_append level [] last).trans ?_
  split
  · next empty =>
    obtain ⟨rfl, empty⟩ := empty
    unfold fault?
    rw [if_pos empty]
    rfl
  · rfl

/-- **The last record alone decides what is handed over**, unless it is one without
entries at level one, and the fault of an earlier one is pending. -/
theorem handed_append_iff (records : List PaletteRecord) (last : PaletteRecord) :
    handed level (records ++ [last]) = handed level [last]
      ↔ ¬ (level = .one ∧ last.count = 0 ∧ (pending? level records).isSome) := by
  have loads : loaded level (records ++ [last]) = loaded level [last] :=
    (loaded_append level records last).trans (loaded_append level [] last).symm
  unfold handed
  rw [pending?_singleton, pending?_append, loads]
  by_cases empty : level = .one ∧ last.count = 0
  · obtain ⟨rfl, empty⟩ := empty
    have sound : last.fault? .one = none := by
      unfold fault?
      rw [if_pos empty]
    rw [if_pos ⟨rfl, empty⟩, sound]
    cases pending? .one records with
    | none => exact ⟨fun _ lingers => Bool.false_ne_true lingers.2.2, fun _ => rfl⟩
    | some err => exact ⟨nofun, fun settled => absurd ⟨rfl, empty, rfl⟩ settled⟩
  · rw [if_neg empty]
    exact ⟨fun _ lingers => empty ⟨lingers.1, lingers.2.1⟩, fun _ => rfl⟩

/-- Then that fault is handed over. -/
theorem handed_of_pending {records : List PaletteRecord} {last : PaletteRecord} {err : RasterError}
    (one : level = .one) (empty : last.count = 0) (pending : pending? level records = some err) :
    handed level (records ++ [last]) = .error err := by
  unfold handed
  rw [pending?_append, if_pos ⟨one, empty⟩, pending]

/-- **A palette that is handed over** is that of the last record, which has no fault if it
has entries. -/
theorem eq_palette_of_handed {records : List PaletteRecord} {last : PaletteRecord}
    {palette : Palette} (handed_eq : handed level (records ++ [last]) = .ok palette) :
    palette = last.palette level ∧ (last.count ≠ 0 → last.fault? level = none) := by
  unfold handed at handed_eq
  rw [pending?_append, loaded_append] at handed_eq
  split at handed_eq
  · cases handed_eq
  · next sound =>
    cases handed_eq
    exact ⟨rfl, fun some => (if_neg (fun both => some both.2)).symm.trans sound⟩

/-! ## Loading -/

/-- The entries of a record have a place in the palette of its level. -/
theorem fits_of_fault?_eq_none {length start count : Nat}
    (sound : Walk.paletteFault? level length start count = none) :
    start + count ≤ level.paletteCapacity := by
  unfold Walk.paletteFault? at sound
  dsimp only at sound
  split at sound
  · cases sound
  · split at sound
    · cases sound
    · next fits => exact Nat.le_of_not_lt fits

/-- **What has a place is loaded**, as the palette of the record. -/
theorem load_eq {record : PaletteRecord} (some : record.count ≠ 0)
    (fits : record.start + record.count ≤ level.paletteCapacity)
    (size : record.count * Walk.entryStride level ≤ record.data.size) :
    level.emptyPalette.load record.start record.count record.data (Walk.entryStride level)
      = .ok (record.palette level) := by
  rw [level.load_emptyPalette some fits size]
  unfold palette
  rw [if_neg some]

/-! ## Reading -/

variable {σ : Type} [ByteSource σ]

/-- Reads the entries of a palette record, unless it has none or has a fault. -/
def readEntries (front : RecordFront) (start count : Nat) : WalkM σ PaletteRecord :=
  let without : PaletteRecord :=
    { body := front.body, length := front.length, start, count, data := #[] }
  if count = 0 ∨ (Walk.paletteFault? level front.length start count).isSome then pure without
  else do
    let wanted := count * Walk.entryStride level
    let bytes ← Walk.require (ByteSource.takeUpTo wanted)
    return { without with data := bytes ++ Array.replicate (wanted - bytes.size) 0 }

/-- **Reads a palette record.** -/
def read (front : RecordFront) : WalkM σ PaletteRecord := do
  let start := (← Walk.read ByteSource.u16LE).toNat
  let count := (← Walk.read ByteSource.u16LE).toNat
  readEntries level front start count

end PaletteRecord

namespace Walk

variable {σ : Type}

/-- **What a palette record leaves in a walk**: its fault, if it has a say, and without
a fault its palette. -/
structure Leaves (level : Level) (record : PaletteRecord) (walk walk' : Walk σ) : Prop where
  /-- At level one, a record without entries has no say. -/
  paletteError : walk'.paletteError =
    if level = .one ∧ record.count = 0 then walk.paletteError else record.fault? level
  /-- Without a fault, its palette is loaded. -/
  palette : walk'.paletteError = none → walk'.palette = record.palette level

/-- **Walks with the same palette**, and the same fault if there is one. -/
structure SamePalette (walk walk' : Walk σ) : Prop where
  /-- The palette is the same. -/
  palette : walk'.palette = walk.palette
  /-- So is the fault. -/
  paletteError : walk'.paletteError = walk.paletteError

instance : IsPreorder (Walk σ) SamePalette where
  refl _ := ⟨rfl, rfl⟩
  trans _ _ _ first second :=
    ⟨second.palette.trans first.palette, second.paletteError.trans first.paletteError⟩

/-- What was left in a walk does not depend on anything but the palette before. -/
theorem SamePalette.leaves {level : Level} {record : PaletteRecord} {walk mid walk' : Walk σ}
    (same : SamePalette walk mid) (left : Leaves level record mid walk') :
    Leaves level record walk walk' where
  paletteError := same.paletteError ▸ left.paletteError
  palette := left.palette

/-! ## Records without a palette -/

/-- Steps on the source do not concern the palette. -/
theorem onSource_samePalette {α : Type} (step : EStateM WpgError σ α) :
    Upholds SamePalette (onSource step) := by
  intro walk
  unfold onSource
  cases step walk.source <;> exact ⟨rfl, rfl⟩

theorem note_samePalette (type : UInt8) (body length skip : Nat) :
    Upholds SamePalette (note type body length skip : WalkM σ Unit) := by
  intro walk
  unfold note
  cases EmbeddedFile.inBody type body length skip <;> exact ⟨rfl, rfl⟩

/-- Nor does a precision or a transform. -/
theorem modify_samePalette {change : Walk σ → Walk σ}
    (same : ∀ walk, SamePalette walk (change walk)) :
    Upholds SamePalette (modify change : WalkM σ Unit) :=
  same

variable [ByteSource σ]

theorem Moved.samePalette {walk walk' : Walk σ} (moved : Moved walk walk') :
    SamePalette walk walk' := by
  rw [moved.eq]
  exact ⟨rfl, rfl⟩

theorem inspectOne_samePalette {front : RecordFront} (other : front.type ≠ Level.one.paletteType) :
    Upholds SamePalette (inspectOne front : WalkM σ (Option Bitmap)) := by
  unfold inspectOne
  split
  · exact (onSource_samePalette _).bind fun _ => .pure _
  · exact (onSource_samePalette _).bind fun _ => .pure _
  · next type => exact absurd type other
  · exact (note_samePalette _ _ _ _).bind fun _ => .pure _
  · exact (note_samePalette _ _ _ _).bind fun _ => .pure _
  · exact .pure _

theorem inspectTwo_samePalette {front : RecordFront} (other : front.type ≠ Level.two.paletteType) :
    Upholds SamePalette (inspectTwo front : WalkM σ (Option Bitmap)) := by
  unfold inspectTwo
  split
  · refine (onSource_samePalette _).bind fun _ => (onSource_samePalette _).bind fun _ =>
      (onSource_samePalette _).bind fun _ => ?_
    refine Upholds.bind (modify_samePalette ?_) fun _ => .pure _
    exact fun _ => ⟨rfl, rfl⟩
  · next type => exact absurd type other
  · exact Upholds.get.bind fun _ => onSource_samePalette _
  · exact (onSource_samePalette _).bind fun _ => (note_samePalette _ _ _ _).bind fun _ => .pure _
  · refine Upholds.get.bind fun _ => (onSource_samePalette _).bind fun _ => ?_
    refine Upholds.bind (modify_samePalette ?_) fun _ => .pure _
    exact fun _ => ⟨rfl, rfl⟩
  · exact .pure _

/-- **Only palette records concern the palette.** -/
theorem inspect_samePalette {level : Level} {front : RecordFront}
    (other : front.type ≠ level.paletteType) :
    Upholds SamePalette (inspect level front : WalkM σ (Option Bitmap)) := by
  cases level with
  | one => exact inspectOne_samePalette other
  | two => exact inspectTwo_samePalette other

/-! ## Palette records -/

/-- A palette record is inspected by reading its palette. -/
theorem inspect_palette {level : Level} {front : RecordFront}
    (type : front.type = level.paletteType) :
    (inspect level front : WalkM σ (Option Bitmap))
      = (do readPalette level front.length; return none) := by
  obtain ⟨_, body, length⟩ := front
  cases level <;> subst type <;> rfl

section

variable {level : Level} {front : RecordFront} {walk walk' : Walk σ}

/-- Entries that have a place leave their palette. -/
theorem loadEntries_leaves {start count : Nat} (some : count ≠ 0)
    (sound : paletteFault? level front.length start count = none)
    (ran : loadEntries level start count walk = .ok () walk') :
    ∃ record mid, PaletteRecord.readEntries level front start count walk = .ok record mid
      ∧ Leaves level record walk walk' := by
  have read : ¬ (count = 0 ∨ (paletteFault? level front.length start count).isSome = true) := by
    rw [sound]
    exact fun either => either.elim some Bool.false_ne_true
  unfold loadEntries at ran
  obtain ⟨bytes, _, took, ran⟩ := exists_of_bind_ok ran
  unfold PaletteRecord.readEntries
  dsimp only at ran ⊢
  rw [if_neg read, bind_of_ok took]
  have size : count * entryStride level
      ≤ (bytes ++ Array.replicate (count * entryStride level - bytes.size) (0 : UInt8)).size := by
    rw [Array.size_append, Array.size_replicate]
    omega
  generalize bytes ++ Array.replicate (count * entryStride level - bytes.size) (0 : UInt8)
    = data at ran size ⊢
  let record : PaletteRecord := ⟨front.body, front.length, start, count, data⟩
  have loads := PaletteRecord.load_eq level (show record.count ≠ 0 from some)
    (PaletteRecord.fits_of_fault?_eq_none level sound) size
  rw [loads] at ran
  cases ran
  refine ⟨record, _, rfl, ?_, fun _ => rfl⟩
  have fault : record.fault? level = none := (if_neg some).trans sound
  rw [if_neg (fun both => some both.2), fault]

/-- **To read a palette is to read its record**, and to leave in the walk what the
record says. -/
theorem readPalette_leaves (ran : readPalette level front.length walk = .ok () walk') :
    ∃ record mid, PaletteRecord.read level front walk = .ok record mid
      ∧ Leaves level record walk walk' := by
  unfold readPalette at ran
  obtain ⟨first, _, started, ran⟩ := exists_of_bind_ok ran
  obtain ⟨second, counting, counted, ran⟩ := exists_of_bind_ok ran
  have same : SamePalette walk counting := trans_of SamePalette
    ((onSource_samePalette _).of_ok started) ((onSource_samePalette _).of_ok counted)
  unfold PaletteRecord.read
  rw [bind_of_ok started, bind_of_ok counted]
  suffices read : ∃ record mid,
      PaletteRecord.readEntries level front first.toNat second.toNat counting = .ok record mid
        ∧ Leaves level record counting walk' by
    obtain ⟨record, mid, read, left⟩ := read
    exact ⟨record, mid, read, same.leaves left⟩
  dsimp only at ran
  generalize first.toNat = start, second.toNat = count at ran ⊢
  let unread : PaletteRecord := ⟨front.body, front.length, start, count, #[]⟩
  by_cases empty : count = 0
  · have skipped : count = 0 ∨ (paletteFault? level front.length start count).isSome = true :=
      .inl empty
    rw [if_pos empty] at ran
    refine ⟨unread, counting, ?_, ?_⟩
    · unfold PaletteRecord.readEntries
      rw [if_pos skipped]
      rfl
    cases level with
    | one =>
      cases ran
      exact ⟨(if_pos ⟨rfl, empty⟩).symm, fun _ => (if_pos empty).symm⟩
    | two =>
      cases ran
      refine ⟨?_, nofun⟩
      have fault : unread.fault? .two = some (.paletteOverflow start 0 Level.two.paletteCapacity) :=
        if_pos empty
      rw [if_neg (fun both => nomatch both.1), fault]
  rw [if_neg empty] at ran
  cases fault : paletteFault? level front.length start count with
  | none =>
    rw [fault] at ran
    exact loadEntries_leaves empty fault ran
  | some err =>
    rw [fault] at ran
    cases ran
    have skipped : count = 0 ∨ (paletteFault? level front.length start count).isSome = true :=
      .inr (by rw [fault]; rfl)
    have said : unread.fault? level = some err := (if_neg empty).trans fault
    refine ⟨unread, counting, ?_, ?_, nofun⟩
    · unfold PaletteRecord.readEntries
      rw [if_pos skipped]
      rfl
    · rw [if_neg (fun both => empty both.2), said]

end

/-- The palette record at an offset, if there is one. -/
def paletteAt? (plan : WalkPlan) (offset : Nat) (walk : Walk σ) : Option PaletteRecord :=
  match front plan offset walk with
  | .ok (some front) mid =>
    if front.type = plan.level.paletteType then
      match PaletteRecord.read plan.level front mid with
      | .ok record _ => some record
      | .error _ _ => none
    else none
  | _ => none

variable [LawfulByteSource σ]

/-- **Scanning a record** leaves in the walk what it says if it is a palette record, and
otherwise leaves the palette alone. -/
theorem scan_leaves {plan : WalkPlan} {offset : Nat} {walk walk' : Walk σ} {found : Found}
    (scanned : scan plan offset walk = .ok found walk') :
    (∃ record, paletteAt? plan offset walk = some record ∧ found.bitmap? = none
        ∧ Leaves plan.level record walk walk')
      ∨ paletteAt? plan offset walk = none ∧ SamePalette walk walk' := by
  obtain ⟨front?, mid, read, scanned⟩ := exists_of_bind_ok scanned
  have same : SamePalette walk mid := ((front_moved plan offset).of_ok read).samePalette
  unfold paletteAt?
  rw [read]
  cases front? with
  | none =>
    cases scanned
    exact .inr ⟨rfl, same⟩
  | some front =>
    dsimp only at scanned ⊢
    obtain ⟨bitmap?, last, inspected, scanned⟩ := exists_of_bind_ok scanned
    cases scanned
    by_cases type : front.type = plan.level.paletteType
    · rw [if_pos type]
      rw [inspect_palette type] at inspected
      obtain ⟨_, _, loaded, inspected⟩ := exists_of_bind_ok inspected
      cases inspected
      obtain ⟨record, _, read', left⟩ := readPalette_leaves loaded
      rw [read']
      exact .inl ⟨record, rfl, rfl, same.leaves left⟩
    · rw [if_neg type]
      exact .inr ⟨rfl, trans_of SamePalette same ((inspect_samePalette type).of_ok inspected)⟩

end Walk

end WpgRaster
