import WpgRaster.Proofs.Container.Fronts
import WpgRaster.Proofs.Container.Handovers

/-!
# Where the colours of a palette lie

The entries of a palette record are read from where its body goes on behind the start
and the count (`PaletteRecord.data_of_read`), however long the body is. At level two a
record whose entries do not fit its body is rejected. At level one this is not looked
at, and then the colours come from the records behind it
(`Decoder.handovers_of_overrun`).
-/

namespace WpgRaster

namespace PaletteRecord

variable (level : Level) (record : PaletteRecord)

/-- How many bytes the entries of a record have. -/
def width : Nat := record.count * Walk.entryStride level

/-- **A record that overruns its body**: the entries have more bytes than the body behind
the start and the count. -/
def Overruns : Prop := record.length - 4 < record.width level

instance : Decidable (record.Overruns level) := Nat.decLt _ _

/-- **The bytes of a file where the entries of a record lie**, with zeros behind the end
of the file. -/
def stored (file : Bytes) : Bytes :=
  let there := file.extract (record.body + 4) (record.body + 4 + record.width level)
  there ++ Array.replicate (record.width level - there.size) 0

variable {level record}

/-- A record without entries does not. -/
theorem Overruns.count_ne_zero (overruns : record.Overruns level) : record.count ≠ 0 := by
  intro none
  unfold Overruns width at overruns
  rw [none, Nat.zero_mul] at overruns
  exact Nat.not_lt_zero _ overruns

/-- Entries that are there lie in the body if and only if the record does not overrun
it. -/
theorem width_le_length_iff (some : record.count ≠ 0) :
    4 + record.width level ≤ record.length ↔ ¬ record.Overruns level := by
  have pos : 0 < record.width level := Nat.mul_pos (Nat.pos_of_ne_zero some) (by
    cases level <;> decide)
  unfold Overruns
  omega

/-- **At level two an overrun is a fault.** -/
theorem fault?_of_overruns_two (overruns : record.Overruns .two) :
    record.fault? .two
      = some (.paletteOverflow record.start record.count ((record.length - 4) / 4)) := by
  have few : (record.length - 4) / 4 < record.count :=
    (Nat.div_lt_iff_lt_mul (by decide)).mpr overruns
  unfold fault? Walk.paletteFault?
  rw [if_neg overruns.count_ne_zero]
  dsimp only
  rw [if_pos ⟨rfl, few⟩]

/-- At level one it is none, unless there is no room in the palette. -/
theorem fault?_of_overruns_one (overruns : record.Overruns .one) :
    record.fault? .one =
      if Level.one.paletteCapacity < record.start + record.count then
        some (.paletteOverflow record.start record.count Level.one.paletteCapacity)
      else none := by
  unfold fault? Walk.paletteFault?
  rw [if_neg overruns.count_ne_zero]
  rfl

end PaletteRecord

namespace Cursor

/-- A word that is there is read. -/
theorem u16LE_of_le {cursor : Cursor} (enough : 2 ≤ cursor.remaining) :
    (ByteSource.u16LE cursor).2 = cursor.advance 2 := by
  have taken : (ByteSource.takeOrZeros 2 cursor : Bytes × Cursor)
      = (cursor.peek 2, cursor.advance 2) := if_pos enough
  unfold ByteSource.u16LE
  rw [taken]

/-- Otherwise it is 0, and nothing is left. -/
theorem u16LE_of_lt {cursor : Cursor} (few : cursor.remaining < 2) :
    ByteSource.u16LE cursor = (0, cursor.exhaust) := by
  have taken : (ByteSource.takeOrZeros 2 cursor : Bytes × Cursor)
      = (Array.replicate 2 0, cursor.exhaust) := if_neg (Nat.not_le.mpr few)
  unfold ByteSource.u16LE
  rw [taken]
  rfl

/-- **Two words of which the second one is not 0** are both there. -/
theorem position_of_words {cursor : Cursor}
    (some : (ByteSource.u16LE (ByteSource.u16LE cursor).2).1 ≠ 0) :
    (ByteSource.u16LE (ByteSource.u16LE cursor).2).2 = cursor.advance 4 := by
  by_cases enough : 2 ≤ cursor.remaining
  · rw [u16LE_of_le enough] at some ⊢
    by_cases enough' : 2 ≤ (cursor.advance 2).remaining
    · exact u16LE_of_le enough'
    · rw [u16LE_of_lt (Nat.lt_of_not_le enough')] at some
      exact absurd rfl some
  · have none : cursor.exhaust.remaining < 2 := by
      rw [cursor.remaining_exhaust]
      decide
    rw [u16LE_of_lt (Nat.lt_of_not_le enough), u16LE_of_lt none] at some
    exact absurd rfl some

end Cursor

namespace Walk

/-- **The body of a record begins where its front ends.** -/
theorem position_of_front {σ : Type} [ByteSource σ] {plan : WalkPlan} {offset : Nat}
    {walk mid : Walk σ} {front : RecordFront}
    (read : Walk.front plan offset walk = .ok (some front) mid) :
    ByteSource.position mid.source = front.body := by
  have here : ∀ {walk mid : Walk σ} {body : Nat}, position walk = .ok body mid →
      ByteSource.position mid.source = body := by
    intro walk mid body ran
    cases ran
    rfl
  unfold Walk.front at read
  cases level : plan.level with
  | one =>
    rw [level] at read
    obtain ⟨_, _, -, read⟩ := exists_of_bind_ok read
    obtain ⟨type?, _, -, read⟩ := exists_of_bind_ok read
    cases type? with
    | none => cases read
    | some type =>
      obtain ⟨length, _, -, read⟩ := exists_of_bind_ok read
      dsimp only at read
      split at read
      · obtain ⟨_, _, thrown, _⟩ := exists_of_bind_ok read
        cases thrown
      obtain ⟨ended, _, -, read⟩ := exists_of_bind_ok read
      split at read
      · cases read
      obtain ⟨body, _, stands, read⟩ := exists_of_bind_ok read
      split at read
      · cases read
      cases read
      exact here stands
  | two =>
    rw [level] at read
    obtain ⟨_, _, -, read⟩ := exists_of_bind_ok read
    obtain ⟨class?, _, -, read⟩ := exists_of_bind_ok read
    cases class? with
    | none => cases read
    | some _ =>
      obtain ⟨type?, _, -, read⟩ := exists_of_bind_ok read
      cases type? with
      | none => cases read
      | some type =>
        obtain ⟨_, _, -, read⟩ := exists_of_bind_ok read
        obtain ⟨length, _, -, read⟩ := exists_of_bind_ok read
        obtain ⟨ended, _, -, read⟩ := exists_of_bind_ok read
        split at read
        · cases read
        obtain ⟨body, _, stands, read⟩ := exists_of_bind_ok read
        cases read
        exact here stands

end Walk

namespace PaletteRecord

variable {level : Level} {front : RecordFront} {walk mid : Walk Cursor} {record : PaletteRecord}

/-- What is not read of a record is given. -/
theorem fields_of_readEntries {start count : Nat}
    (ran : readEntries level front start count walk = .ok record mid) :
    record.body = front.body ∧ record.length = front.length ∧ record.start = start
      ∧ record.count = count := by
  unfold readEntries at ran
  dsimp only at ran
  split at ran
  · cases ran
    exact ⟨rfl, rfl, rfl, rfl⟩
  · obtain ⟨bytes, _, -, ran⟩ := exists_of_bind_ok ran
    cases ran
    exact ⟨rfl, rfl, rfl, rfl⟩

/-- The entries are read from where the source stands. -/
theorem data_of_readEntries {start count : Nat}
    (ran : readEntries level front start count walk = .ok record mid)
    (position : walk.source.position = front.body + 4) (some : count ≠ 0)
    (sound : Walk.paletteFault? level front.length start count = none) :
    record.data = record.stored level walk.source.bytes := by
  have read : ¬ (count = 0
      ∨ (Walk.paletteFault? level front.length start count).isSome = true) := by
    rw [sound]
    exact fun either => either.elim some Bool.false_ne_true
  unfold readEntries at ran
  dsimp only at ran
  rw [if_neg read] at ran
  obtain ⟨bytes, _, taken, ran⟩ := exists_of_bind_ok ran
  cases ran
  cases taken
  unfold stored width
  dsimp only
  rw [← position]
  rfl

/-- **The entries of a record are read from where they lie**, unless it has a fault. -/
theorem data_of_read (ran : read level front walk = .ok record mid)
    (position : walk.source.position = front.body) (some : record.count ≠ 0)
    (sound : record.fault? level = none) : record.data = record.stored level walk.source.bytes := by
  obtain ⟨start, _, started, ran⟩ := exists_of_bind_ok ran
  obtain ⟨count, counting, counted, ran⟩ := exists_of_bind_ok ran
  obtain ⟨-, rfl⟩ := Walk.read_ok started
  obtain ⟨value, rfl⟩ := Walk.read_ok counted
  obtain ⟨-, length, start_eq, count_eq⟩ := fields_of_readEntries ran
  unfold fault? at sound
  rw [if_neg some, length, start_eq, count_eq] at sound
  rw [count_eq] at some
  have words : (ByteSource.u16LE (ByteSource.u16LE walk.source).2).1 ≠ 0 := fun zero =>
    some (congrArg UInt16.toNat (value.trans zero))
  have behind : (ByteSource.u16LE (ByteSource.u16LE walk.source).2).2 = walk.source.advance 4 :=
    Cursor.position_of_words words
  have here : (ByteSource.u16LE (ByteSource.u16LE walk.source).2).2.position = front.body + 4 := by
    rw [behind, ← position]
    rfl
  have bytes : (ByteSource.u16LE (ByteSource.u16LE walk.source).2).2.bytes = walk.source.bytes := by
    rw [behind]
    rfl
  rw [data_of_readEntries ran here some sound]
  exact congrArg (record.stored level) bytes

end PaletteRecord

/-- **The palette records of a handover lie in the file**: the bytes of the entries are
those that lie there. -/
theorem Decoder.data_of_mem_palettes {source : Cursor} {options : Options} {stop : Stop}
    {handover : Handover Cursor}
    (among : handover ∈ ({ source, options } : Decoder Cursor).handovers stop)
    {record : PaletteRecord} (known : record ∈ handover.palettes) (some : record.count ≠ 0)
    (sound : record.fault? handover.plan.level = none) :
    record.data = record.stored handover.plan.level source.bytes := by
  obtain ⟨opened, plan, ran, planned, among⟩ := exists_of_mem_handovers among
  obtain ⟨plan_eq, -⟩ := Walk.handovers_spec (headersOnly_of_plan? planned)
    (Walk.since_nil rfl rfl) among
  have file := (keeps_of_decodeHeaders_ok ran).2
  obtain known | ⟨here, walk, same, found⟩ := Walk.mem_palettes among known
  · cases known
  have bytes : walk.source.bytes = source.bytes := Cursor.sameFile_iff.mp (file.trans same)
  rw [plan_eq] at sound ⊢
  unfold Walk.paletteAt? at found
  split at found
  · next front mid read =>
    split at found
    · split at found
      · next read' =>
        cases found
        have moved := (Walk.front_moved plan here).of_ok read
        rw [PaletteRecord.data_of_read read' (Walk.position_of_front read) some sound,
          (Cursor.sameFile_iff.mp moved.file).trans bytes]
      · cases found
    · cases found
  · cases found

/-- **A palette record with entries decides what is handed over**, if it is the last one. -/
theorem Handover.handed_of_last {σ : Type} {handover : Handover σ} {earlier : List PaletteRecord}
    {last : PaletteRecord} (palettes : handover.palettes = earlier ++ [last])
    (some : last.count ≠ 0) :
    handover.handed = PaletteRecord.handed handover.plan.level [last] := by
  unfold handed
  rw [palettes]
  exact (PaletteRecord.handed_append_iff _ earlier last).mpr fun lingers => some lingers.2.1

namespace Decoder

/-- So its fault rejects the bitmap. -/
theorem rejects_of_last {σ : Type} [ByteSource σ] [LawfulByteSource σ] {decoder : Decoder σ}
    {stop : Stop} {handover : Handover σ} (among : handover ∈ decoder.handovers stop)
    {earlier : List PaletteRecord} {last : PaletteRecord}
    (palettes : handover.palettes = earlier ++ [last]) (some : last.count ≠ 0) {err : RasterError}
    (fault : last.fault? handover.plan.level = .some err) : decoder.Rejects stop handover err := by
  refine rejects_of_handed among ((Handover.handed_of_last palettes some).trans ?_)
  unfold PaletteRecord.handed
  rw [PaletteRecord.pending?_singleton, fault]

/-- **What becomes of a palette that overruns its record**, and where the colours of the
other ones lie. The last palette record in front of a bitmap is meant, of either level.
At level two an overrun rejects the bitmap. At level one it does so only if there is no
room for the colours, and otherwise the palette is handed over. A frame has the colormap
of the last record, whose colours are the bytes of the file behind its start and its
count. These lie in the body of the record unless this is one of level one that is
overrun. -/
theorem handovers_of_overrun (source : Cursor) (options : Options) (stop : Stop) :
    let decoder : Decoder Cursor := { source, options }
    ∀ handover ∈ decoder.handovers stop, ∀ earlier last, handover.palettes = earlier ++ [last] →
      let level := handover.plan.level
      (level = .two → last.Overruns level → decoder.Rejects stop handover
          (.paletteOverflow last.start last.count ((last.length - 4) / 4)))
        ∧ (level = .one → last.Overruns level →
          if level.paletteCapacity < last.start + last.count then
            decoder.Rejects stop handover
              (.paletteOverflow last.start last.count level.paletteCapacity)
          else handover.handed = .ok (last.palette level))
        ∧ ∀ frame ∈ handover.frames,
          Colormap.make level (some (last.palette level)) handover.bitmap.depth
              = .ok frame.colormap
            ∧ (last.count ≠ 0 → last.data = last.stored level source.bytes
              ∧ (4 + last.width level ≤ last.length ↔ ¬ (level = .one ∧ last.Overruns level))) := by
  intro decoder handover among earlier last palettes level
  have known : last ∈ handover.palettes := palettes ▸ List.mem_append_right _ List.mem_cons_self
  refine ⟨fun two overruns => ?_, fun one overruns => ?_, fun frame shown => ?_⟩
  · -- an overrun has entries, so the record has a say
    refine rejects_of_last among palettes overruns.count_ne_zero ?_
    show last.fault? level = _
    rw [two] at overruns ⊢
    exact PaletteRecord.fault?_of_overruns_two overruns
  · have some := overruns.count_ne_zero
    have fault : last.fault? level =
        if level.paletteCapacity < last.start + last.count then
          .some (.paletteOverflow last.start last.count level.paletteCapacity)
        else none := by
      rw [one] at overruns ⊢
      exact PaletteRecord.fault?_of_overruns_one overruns
    split
    · next full => exact rejects_of_last among palettes some (fault.trans (if_pos full))
    · next fits =>
      refine (Handover.handed_of_last palettes some).trans ?_
      unfold PaletteRecord.handed
      rw [PaletteRecord.pending?_singleton, show last.fault? handover.plan.level = none from
        fault.trans (if_neg fits)]
      rfl
  · obtain ⟨palette, handed, made⟩ :=
      Handover.colormap_of_mem_frames (handsOver_of_mem among).since shown
    unfold Handover.handed at handed
    rw [palettes] at handed
    obtain ⟨rfl, sound⟩ := PaletteRecord.eq_palette_of_handed level handed
    refine ⟨made, fun some => ⟨data_of_mem_palettes among known some (sound some), ?_⟩⟩
    refine (PaletteRecord.width_le_length_iff some).trans
      ⟨fun inside both => inside both.2, fun inside overruns => ?_⟩
    cases two : level with
    | one => exact inside ⟨two, overruns⟩
    | two =>
      rw [two] at overruns sound
      rw [PaletteRecord.fault?_of_overruns_two overruns] at sound
      cases sound some

end Decoder

namespace Bytes

/-- The header of a file of level two whose records follow at once. -/
def codedHeader : Bytes := #[0xFF, 0x57, 0x50, 0x43, 16, 0, 0, 0, 1, 0x16, 2, 0, 0, 0, 0, 0]

/-- A palette of level two that has two colours by its count, but room for one. -/
def overrunPalette : Bytes := #[0, 0x0C, 0, 8, 0, 0, 2, 0, 1, 2, 3, 4]

/-- A bitmap of level two, which has one pixel of four bits. -/
def codedPixel : Bytes := #[0, 0x0E, 0, 7, 1, 0, 1, 0, 3, 0, 0]

/-- A palette of level one that has one colour by its count, but room for none. -/
def bodilessPalette : Bytes := #[0x0E, 4, 0, 0, 1, 0]

end Bytes

namespace Decoder

set_option maxRecDepth 4000 in
/-- At level two an overrun rejects the bitmap behind it, and only that one. -/
theorem handovers_of_overrun_two :
    let decoder : Decoder Cursor := { source := .ofBytes (Bytes.codedHeader
      ++ Bytes.overrunPalette ++ Bytes.codedPixel ++ Bytes.codedPixel) }
    decoder.decode.1.toOption.map Array.size = some 1
      ∧ ∃ handover ∈ decoder.handovers .never, ∃ record, handover.palettes = [record]
        ∧ record.Overruns .two
        ∧ decoder.Rejects .never handover (.paletteOverflow 0 2 1) := by
  intro decoder
  have shape : (decoder.handovers .never).map (fun handover => (handover.plan.level,
      handover.palettes.map fun record => (record.start, record.count, record.length)))
        = [(.two, [(0, 2, 8)]), (.two, [])] := by decide +kernel
  have shown : decoder.decode.1.toOption.map Array.size = some 1 := by decide +kernel
  obtain ⟨handover, rest, handovers, shape, -⟩ := List.map_eq_cons_iff.mp shape
  simp only [Prod.mk.injEq] at shape
  obtain ⟨two, shape⟩ := shape
  obtain ⟨record, records, palettes, measures, shape⟩ := List.map_eq_cons_iff.mp shape
  obtain rfl := List.map_eq_nil_iff.mp shape
  simp only [Prod.mk.injEq] at measures
  obtain ⟨start, count, length⟩ := measures
  have among : handover ∈ decoder.handovers .never := handovers ▸ List.mem_cons_self
  have overruns : record.Overruns .two := by
    unfold PaletteRecord.Overruns PaletteRecord.width
    rw [count, length]
    decide
  have rejects := (handovers_of_overrun _ _ _ handover among [] record palettes).1 two
    (two ▸ overruns)
  rw [start, count, length] at rejects
  exact ⟨shown, handover, among, record, palettes, overruns, rejects⟩

set_option maxRecDepth 4000 in
/-- **At level one an overrun is not rejected**: a palette without room for its colour
takes the first three bytes of the bitmap record behind it, its type, its length and half
of its width, and the bitmap is painted with them. -/
theorem handovers_of_overrun_one :
    let decoder : Decoder Cursor := { source := .ofBytes (Bytes.plainHeader
      ++ Bytes.bodilessPalette ++ Bytes.indexedRecord) }
    (decoder.handovers .never).map (·.palettes.map fun record =>
          (record.body, record.length, record.data.toList, decide (record.Overruns .one)))
        = [[(18, 4, [0x0B, 12, 4], true)]]
      ∧ imagesOf decoder.decode.1 = [[0x0B, 12, 4, 0, 0, 0, 0, 0, 0, 0, 0, 0]] := by
  decide +kernel

end Decoder

end WpgRaster
