import WpgRaster.Proofs.Container.Foretelling
import WpgRaster.Proofs.Container.Fronts
import WpgRaster.Proofs.Container.Kinship

/-!
# What is behind a bitmap

A bitmap takes the palette that was loaded for it, and wherever its raster
leaves the source, the next record is sought by its offset. So nothing in front
of that record matters to the frames behind it, except the transform, which
gives the orientation of bitmaps of level two. If the header names this record
as the first one, then the frames that come behind the bitmap are all there is
(`Decoder.decode_isolated`), whatever the file has between the header and the
record.
-/

namespace WpgRaster

namespace Walk

/-! ## Walks from a later record on -/

variable {plan : WalkPlan} {first : Nat} {older : List Frame}

/-- **A walk is repeated in a file that is the same from its offset on**, by one
that has delivered nothing before. -/
theorem Course.akin {fuel fuel' offset : Nat} {walk walk' last : Walk Cursor} {later : List Visit}
    (course : Course plan fuel offset walk later last) (decodes : plan.headersOnly = false)
    (start : plan.start ≤ first) (le : first ≤ offset) (enough : plan.fileSize - offset ≤ fuel)
    (enough' : plan.fileSize - offset ≤ fuel')
    (akin : Akin (Cursor.Agree first) plan.level older walk walk') :
    ∃ later' last', Course { plan with start := first } fuel' offset walk' later' last'
      ∧ Akin (Cursor.Agree first) plan.level older last last' := by
  induction course generalizing fuel' walk' with
  | @exhausted offset walk =>
    refine ⟨[], walk', ?_, akin⟩
    cases fuel' with
    | zero => exact .exhausted
    | succ _ => exact .beyond (show plan.fileSize ≤ offset by omega)
  | beyond beyond =>
    refine ⟨[], walk', ?_, akin⟩
    cases fuel' with
    | zero => exact .exhausted
    | succ _ => exact .beyond beyond
  | ended inside stepped =>
    obtain ⟨mid', stepped', akin'⟩ := step_akin decodes start le akin stepped
    obtain ⟨fuel', rfl⟩ := Nat.exists_eq_succ_of_ne_zero (show fuel' ≠ 0 by omega)
    exact ⟨_, mid', .ended inside stepped', akin'⟩
  | @next _ offset next _ _ _ _ inside stepped _ ih =>
    obtain ⟨mid', stepped', akin'⟩ := step_akin decodes start le akin stepped
    have forward := (step_ok_some stepped).1
    obtain ⟨fuel', rfl⟩ := Nat.exists_eq_succ_of_ne_zero (show fuel' ≠ 0 by omega)
    have left : plan.fileSize - next ≤ fuel' := by omega
    obtain ⟨later', last', course', akin''⟩ := ih (by omega) (by omega) left akin'
    exact ⟨_, last', .next inside stepped' course', akin''⟩

/-- **A walk from the record behind a bitmap on**, in a file that is the same from
there on, delivers the frames of the later visits. -/
theorem Course.repeated {fuel : Nat} {behind last : Walk Cursor} {later : List Visit}
    {source : Cursor} (course : Course plan fuel first behind later last)
    (decodes : plan.headersOnly = false) (start : plan.start ≤ first)
    (enough : plan.fileSize - first ≤ fuel) (palette : behind.palette = plan.level.emptyPalette)
    (paletteError : behind.paletteError = none) (silent : behind.stop.Silent)
    (agree : Cursor.Agree first behind.source source) :
    ∃ later' last', Course { plan with start := first } (plan.fileSize - first) first
        (make plan.level source .never) later' last'
      ∧ List.Forall₂ (Frame.Resembles plan.level) (later.flatMap Visit.frames)
          last'.frames.toList := by
  have akin : Akin (Cursor.Agree first) plan.level behind.frames.toList behind
      (make plan.level source .never) :=
    { source := agree
      silent := silent
      silent' := fun _ => rfl
      palette := palette.symm
      paletteError := paletteError.symm
      frames := ⟨[], (List.append_nil _).symm, .nil⟩ }
  obtain ⟨later', last', course', akin'⟩ :=
    course.akin decodes start (Nat.le_refl _) enough (Nat.le_refl _) akin
  obtain ⟨newer, frames, same⟩ := akin'.frames
  rw [course.adds.1] at frames
  exact ⟨later', last', course', List.append_cancel_left frames ▸ same⟩

/-- **What is left of a walk behind a bitmap**: the bitmap was found in its record,
no palette is loaded any more, and the later visits are a course from the next
record on. -/
theorem Course.behind_bitmap {fuel offset next : Nat} {walk last : Walk Cursor}
    {front later : List Visit} {visit : Visit}
    (course : Course plan fuel offset walk (front ++ visit :: later) last)
    (enough : plan.fileSize - offset ≤ fuel) (decodes : plan.headersOnly = false)
    (all : plan.options.allFrames = true) (isBitmap : visit.bitmap?.isSome = true)
    (next? : visit.next? = some next) :
    ∃ here before bitmap mid behind fuel', offset ≤ here ∧ SameFile walk.source before.source
      ∧ scan plan here before = .ok (.bitmap bitmap next) mid ∧ Proceeds walk behind
      ∧ behind.palette = plan.level.emptyPalette ∧ behind.paletteError = none
      ∧ plan.fileSize - next ≤ fuel' ∧ Course plan fuel' next behind later last := by
  obtain ⟨here, before, behind, goesOn?, le, proceeds, stepped, rfl, rest⟩ := course.split enough
  obtain ⟨mid, scanned, settled⟩ := step_ok stepped
  change (foundAt plan here before).bitmap?.isSome = true at isBitmap
  change (foundAt plan here before).next? = some next at next?
  generalize foundAt plan here before = found at scanned settled isBitmap next?
  cases found with
  | ended => cases isBitmap
  | passed _ => cases isBitmap
  | bitmap bitmap _ =>
    cases next?
    obtain ⟨more, handled, goesOn⟩ := settle_bitmap_ok settled
    obtain ⟨-, handled⟩ := handleBitmap_eq_ok.mp handled
    rw [(handled.frames_eq decodes).1, all] at goesOn
    obtain ⟨fuel', enough', course'⟩ := rest next goesOn
    obtain ⟨palette, paletteError⟩ := handled.unloads decodes
    exact ⟨here, before, bitmap, mid, behind, fuel', le, proceeds.file, scanned,
      trans_of Proceeds proceeds ((step_proceeds plan here).of_ok stepped), palette, paletteError,
      enough', course'⟩

end Walk

namespace Level

/-- **No bitmap has its type among the first eight bytes of a file**, if its
records begin there. -/
theorem not_mem_bitmapTypes (level : Level) {offset : Nat} (early : offset < 8) {type : UInt8}
    (among : type ∈ Header.magic.toList ++ littleEndianBytes 4 offset) :
    type ∉ level.bitmapTypes := by
  have all : ∀ offset < 8, ∀ type ∈ Header.magic.toList ++ littleEndianBytes 4 offset,
      type ∉ Level.one.bitmapTypes ∧ type ∉ Level.two.bitmapTypes := by decide +kernel
  cases level with
  | one => exact (all offset early type among).1
  | two => exact (all offset early type among).2

end Level

namespace Decoder

/-- **To decode a file, once its header is read, is to walk over its records.** -/
theorem decode_of_course {σ : Type} [ByteSource σ] [LawfulByteSource σ] {decoder mid : Decoder σ}
    {header : Header} {source : σ} {size : Nat} {plan : WalkPlan} {visits : List Visit}
    {last : Walk σ} (unread : decoder.headersDecoded = false)
    (read : readHeader decoder = .ok header mid)
    (measured : ByteSource.length mid.source = .ok size source)
    (planned : (decoder.told source header size).plan? false = some plan)
    (course : Walk.Course plan (plan.fileSize - plan.start) plan.start
      (Walk.make plan.level source .never) visits last) :
    decoder.decode.1 = delivered last.frames := by
  -- the walk for the header
  obtain ⟨_, noted, course'⟩ := course.exists_headersOnly
  have run : Walk.run { plan with headersOnly := true } (Walk.make plan.level source .never)
      = .ok () noted := course'.steps_eq.1
  have went : (decoder.told source header size).walk true .never
      = ((.ok noted.frames, noted.stop), (decoder.told source header size).after noted) :=
    walk_of_run_ok (plan?_headersOnly planned true) run
  have opened := decodeHeaders_of_walk unread read measured went
  -- it leaves the source at another position of the same file
  have file : SameFile source noted.source := ((Walk.steps_proceeds _ _ _).of_ok run).file
  obtain ⟨source', course''⟩ := course.withSource file
  have run' : Walk.run plan (Walk.make plan.level noted.source .never)
      = .ok () (last.withSource source') := course''.steps_eq.1
  rw [decode_of_run_ok opened planned run']
  rfl

end Decoder

/-! ## Files that are opened -/

/-- **A file that a decoder can open**: its first bytes are those of a header
that is accepted, and it is not too large to be measured. -/
structure Opens (bytes : Bytes) (header : Header) (level : Level) : Prop where
  /-- The first bytes are those of the header. -/
  stands : header.bytes <+: bytes.toList
  /-- It identifies the format. -/
  identified : Header.isMagic header.fileId = true
  /-- Nothing is wrong with it. -/
  sound : header.fault? = none
  /-- It gives the level. -/
  levelled : header.level? = some level
  /-- The size is a signed number. -/
  small : bytes.size < Size.signedLimit

/-- The plan of decoding such a file. -/
def Header.plan (header : Header) (level : Level) (bytes : Bytes) : WalkPlan :=
  { options := {}
    level
    start := header.dataOffset.toNat
    fileSize := min bytes.size Decoder.maxFileSize
    headersOnly := false }

namespace Opens

variable {bytes : Bytes} {header : Header} {level : Level}

/-- **A file that is opened is decoded by a walk over its records.** -/
theorem decode_of_course {source : Cursor} (opens : Opens source.bytes header level)
    {visits : List Visit} {last : Walk Cursor}
    (course : Walk.Course (header.plan level source.bytes)
      (min source.bytes.size Decoder.maxFileSize - header.dataOffset.toNat)
      header.dataOffset.toNat (Walk.make level (⟨source.bytes, 16⟩ : Cursor) .never)
      visits last) :
    (Decoder.decode { source }).1 = Decoder.delivered last.frames := by
  have read : Decoder.readHeader { source } = .ok header (Decoder.moveTo { source } 16) :=
    Decoder.readHeader_of_prefix opens.stands opens.identified opens.sound
  refine Decoder.decode_of_course rfl read (ByteSource.length_eq opens.small) ?_ course
  exact Decoder.plan?_eq_some.mpr ⟨header, rfl, level, opens.levelled, rfl⟩

/-- **Every file that is decoded is opened**, and its visits are those of a walk
over its records. -/
theorem exists_of_decode_ok {source : Cursor} {frames : Array Frame}
    (decoded : (Decoder.decode { source }).1 = .ok frames) :
    ∃ header level, Opens source.bytes header level
      ∧ (Decoder.decode { source }).2.header = some header
      ∧ ∃ begin : Cursor, begin.bytes = source.bytes ∧ ∃ last, last.frames = frames
        ∧ Walk.Course (header.plan level source.bytes)
            (min source.bytes.size Decoder.maxFileSize - header.dataOffset.toNat)
            header.dataOffset.toNat (Walk.make level begin .never)
            (Decoder.visits { source }) last := by
  obtain ⟨known, plan, last, opened, planned, course, same, -, left⟩ :=
    Decoder.exists_of_decode_ok decoded
  obtain ⟨header, mid, size, source', _, _, _, read, length, went, rfl⟩ :=
    Decoder.exists_of_decodeHeaders_ok rfl opened
  obtain ⟨_, noted, -, run, -, -, rfl⟩ := Decoder.exists_of_walk_ok went
  obtain ⟨_, known, level, levelled, rfl⟩ := Decoder.plan?_eq_some.mp planned
  cases known
  obtain ⟨stands, identified, sound⟩ := Decoder.readHeader_ok read
  -- the file is the same wherever the source stands
  have small := ByteSource.lt_of_length_ok length
  rw [ByteSource.length_eq small] at length
  cases length
  have file : mid.source.bytes = source.bytes :=
    Cursor.sameFile_iff.mp (Decoder.readHeader_moved.of_ok read).file
  have file' : noted.source.bytes = mid.source.bytes :=
    Cursor.sameFile_iff.mp ((Walk.steps_proceeds _ _ _).of_ok run).file
  have course' : Walk.Course (header.plan level mid.source.bytes)
      (min mid.source.bytes.size Decoder.maxFileSize - header.dataOffset.toNat)
      header.dataOffset.toNat (Walk.make level noted.source .never) (Decoder.visits { source })
      last := course
  rw [file] at small course'
  refine ⟨header, level, ⟨stands, identified, sound, levelled, small⟩, ?_, noted.source,
    file'.trans file, last, same, course'⟩
  rw [left]
  rfl

/-- A file with another offset of the first record is opened as well, whatever it
has behind the header. -/
theorem withDataOffset (opens : Opens bytes header level) (offset : UInt32) {file : Bytes}
    (size : file.size = bytes.size)
    (first : file.toList.take 16 = (bytes.withDataOffset offset).toList.take 16) :
    Opens file { header with dataOffset := offset } level where
  stands := by
    have whole := List.prefix_iff_eq_take.mp (Header.prefix_withDataOffset opens.stands offset)
    rw [Header.length_bytes, ← first] at whole
    rw [whole]
    exact List.take_prefix 16 file.toList
  identified := opens.identified
  sound := opens.sound
  levelled := opens.levelled
  small := size ▸ opens.small

/-- There are at least as many bytes as in a header. -/
theorem sixteen_le (opens : Opens bytes header level) : 16 ≤ bytes.size := by
  rw [← Array.length_toList, ← header.length_bytes]
  exact opens.stands.length_le

/-- **The record behind a bitmap does not begin among the first eight bytes**,
since none of these is the type of a bitmap. -/
theorem eight_le_next (opens : Opens bytes header level) {offset next : Nat}
    {walk mid : Walk Cursor} {bitmap : Bitmap} (le : header.dataOffset.toNat ≤ offset)
    (file : walk.source.bytes = bytes)
    (scanned : Walk.scan (header.plan level bytes) offset walk = .ok (.bitmap bitmap next) mid) :
    8 ≤ next := by
  refine Nat.le_of_not_lt fun early => ?_
  obtain ⟨lies, type, among, found⟩ := Walk.type_of_scan_bitmap scanned
  obtain ⟨rest, stored⟩ := opens.stands
  have first : header.bytes ++ rest
      = (Header.magic.toList ++ littleEndianBytes 4 header.dataOffset.toNat)
        ++ (header.tail ++ rest) := by
    rw [Header.bytes, Header.restBytes, Header.littleEndianBytes_of_isMagic opens.identified]
    simp only [List.append_assoc]
  have eight : (Header.magic.toList ++ littleEndianBytes 4 header.dataOffset.toNat).length = 8 := by
    rw [List.length_append, length_littleEndianBytes]
    rfl
  rw [file, ← Array.getElem?_toList, ← stored, first,
    List.getElem?_append_left (by omega)] at found
  exact Level.not_mem_bitmapTypes _ (by omega) (List.mem_of_getElem? found) among

end Opens

/-! ## Isolation -/

/-- **The frames behind a bitmap are isolated from everything in front of them.**
If decoding goes well and comes by a bitmap, whether it became a frame or was
rejected, then the frames of the records behind it are what decoding delivers if
the header gives the offset of the next record as that of the first one, or
there is no frame if there were none. This holds of every file that has this
header and is the same from that record on. Only the orientation may differ, and
only at level two. -/
theorem Decoder.decode_isolated (source : Cursor) {frames : Array Frame}
    (decoded : (decode ({ source } : Decoder Cursor)).1 = .ok frames)
    {front later : List Visit} {visit : Visit}
    (visited : ({ source } : Decoder Cursor).visits = front ++ visit :: later)
    (isBitmap : visit.bitmap?.isSome = true) {offset : UInt32}
    (next : visit.next? = some offset.toNat) :
    let moved := source.bytes.withDataOffset offset
    frames.toList = (front ++ [visit]).flatMap Visit.frames ++ later.flatMap Visit.frames
      ∧ ∃ level, (decode ({ source } : Decoder Cursor)).2.header.bind Header.level? = some level
        ∧ ∀ file : Bytes, file.size = moved.size → file.toList.take 16 = moved.toList.take 16 →
          file.toList.drop offset.toNat = moved.toList.drop offset.toNat →
          ∃ followed, (decode ({ source := .ofBytes file } : Decoder Cursor)).1 = delivered followed
            ∧ List.Forall₂ (Frame.Resembles level) (later.flatMap Visit.frames)
                followed.toList := by
  intro moved
  obtain ⟨header, level, opens, known, begin, begun, last, rfl, course⟩ :=
    Opens.exists_of_decode_ok decoded
  rw [visited] at course
  obtain ⟨here, before, bitmap, mid, behind, fuel, le, unmoved, scanned, proceeds, palette,
    paletteError, enough, rest⟩ := course.behind_bitmap (Nat.le_refl _) rfl rfl isBitmap next
  refine ⟨?_, level, ?_, fun file size first drop => ?_⟩
  · rw [course.adds.1, ← List.flatMap_append, List.append_assoc]
    rfl
  · rw [known]
    exact opens.levelled
  have eight : 8 ≤ offset.toNat := opens.eight_le_next le
    ((Cursor.sameFile_iff.mp unmoved).trans begun) scanned
  have bytes : behind.source.bytes = source.bytes :=
    (Cursor.sameFile_iff.mp proceeds.file).trans begun
  have whole : 8 ≤ source.bytes.size := Nat.le_trans (by decide) opens.sixteen_le
  have size' : file.size = source.bytes.size := size.trans (Bytes.size_withDataOffset offset whole)
  have agree : Cursor.Agree offset.toNat behind.source ⟨file, 16⟩ :=
    { size := by rw [bytes]; exact size'
      drop := by rw [bytes]; exact drop.trans (Bytes.drop_withDataOffset offset whole eight) }
  have forward : here < offset.toNat := Walk.lt_of_scan scanned rfl
  have start : header.dataOffset.toNat ≤ offset.toNat := by omega
  have silent : behind.stop.Silent := fun asked => (congrFun proceeds.answer asked).trans rfl
  obtain ⟨later', last', course', same⟩ :=
    rest.repeated rfl start enough palette paletteError silent agree
  have opens' : Opens (Cursor.ofBytes file).bytes { header with dataOffset := offset } level :=
    opens.withDataOffset offset size' first
  have plan : Header.plan { header with dataOffset := offset } level file
      = { header.plan level source.bytes with start := offset.toNat } := by
    unfold Header.plan
    rw [size']
  have course'' : Walk.Course (Header.plan { header with dataOffset := offset } level file)
      (min file.size maxFileSize - offset.toNat) offset.toNat
      (Walk.make level (⟨file, 16⟩ : Cursor) .never) later' last' := by
    rw [plan, size']
    exact course'
  exact ⟨last'.frames, opens'.decode_of_course course'', same⟩

set_option maxRecDepth 4000 in
/-- The frame behind a bitmap that was rejected for its palette is decoded alone. -/
theorem Decoder.decode_isolated_rejectedFirst :
    let source := Cursor.ofBytes Bytes.rejectedFirst
    ∃ frames front visit later, (decode ({ source } : Decoder Cursor)).1 = .ok frames
      ∧ ({ source } : Decoder Cursor).visits = front ++ visit :: later
      ∧ visit.bitmap?.isSome = true ∧ visit.next? = some (36 : UInt32).toNat
      ∧ visit.frames = [] ∧ (later.flatMap Visit.frames).length = 1
      ∧ ∃ followed, (decode ({ source := .ofBytes (source.bytes.withDataOffset 36) } :
            Decoder Cursor)).1 = delivered followed
          ∧ followed.toList = later.flatMap Visit.frames := by
  intro source
  have shape : ({ source } : Decoder Cursor).visits.map
      (fun visit => (visit.bitmap?.isSome, visit.next?, visit.frames.length))
        = [(false, some 22, 0), (true, some 36, 0), (true, some 50, 1)] := by decide +kernel
  have decodes : (decode ({ source } : Decoder Cursor)).1.toOption.isSome = true := by
    decide +kernel
  have level : (decode ({ source } : Decoder Cursor)).2.header.bind Header.level? = some .one := by
    decide +kernel
  obtain ⟨palette, rest, visited, -, shape⟩ := List.map_eq_cons_iff.mp shape
  obtain ⟨visit, later, rfl, rejected, shape⟩ := List.map_eq_cons_iff.mp shape
  obtain ⟨shown, rest, rfl, one, shape⟩ := List.map_eq_cons_iff.mp shape
  obtain rfl := List.map_eq_nil_iff.mp shape
  simp only [Prod.mk.injEq] at rejected one
  have next : visit.next? = some (36 : UInt32).toNat := rejected.2.1
  cases decoded : (decode ({ source } : Decoder Cursor)).1 with
  | error err =>
    rw [decoded] at decodes
    cases decodes
  | ok frames =>
    obtain ⟨-, level', same, isolated⟩ :=
      decode_isolated source decoded (visited.trans List.singleton_append.symm) rejected.1 next
    rw [level] at same
    cases same
    obtain ⟨followed, alone, resembles⟩ := isolated _ rfl rfl rfl
    refine ⟨frames, [palette], visit, [shown], rfl, visited, rejected.1, next,
      List.eq_nil_of_length_eq_zero rejected.2.2, ?_, followed, alone,
      Frame.Resembles.eq_of_one resembles⟩
    rw [List.flatMap_singleton]
    exact one.2.2

end WpgRaster
