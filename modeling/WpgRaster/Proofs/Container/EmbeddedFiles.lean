import WpgRaster.Proofs.Container.Calls
import WpgRaster.Proofs.Container.Fronts
import WpgRaster.Proofs.Container.PaletteBytes

/-!
# Where embedded files lie

An embedded file is what a record has left behind a few bytes of its own
(`RecordFront.embedded?`), so it lies in the body of its record and ends where that ends
(`EmbeddedFile.CarriedBy`). The records that a walk comes by follow one another, each behind
the body of the one before (`RecordFront.Follow`), and so do the files in them.

What a decoder knows are the embedded files of such records, whatever it was asked before and
whether or not that went well (`Decoder.embedded_performAll`). That they can be cut out of the
file is another matter. A record of level one that reaches beyond the file ends the walk before
its body is read. At level two nobody looks where a record ends until the next one is sought, so
the last file may reach as far beyond the end as its record claims
(`Decoder.embedded_overrunEmbedded`).
-/

namespace WpgRaster

/-! ## The embedded file of a record -/

namespace RecordFront

/-- How many bytes of its own a record has in front of an embedded file, if its type is one that
carries a file. At level two this is a number, which stands in front of them. -/
def skip? (front : RecordFront) (level : Level) (file : Bytes) : Option Nat :=
  match level, front.type with
  | .one, 0x11 => some 8
  | .one, 0x1B => some 0x3C
  | .two, 0x12 => some (2 + (ByteSource.u16LE (⟨file, front.body⟩ : Cursor)).1.toNat)
  | _, _ => none

theorem skip?_of_type {front : RecordFront} {type : UInt8} (same : front.type = type)
    (level : Level) (file : Bytes) :
    front.skip? level file = skip? ⟨type, front.body, front.length⟩ level file := by
  rw [← same]

/-- **The embedded file of a record**, if it carries one. -/
def embedded? (front : RecordFront) (level : Level) (file : Bytes) : Option EmbeddedFile :=
  (front.skip? level file).bind (EmbeddedFile.inBody front.type front.body front.length)

end RecordFront

/-- **A file that a record carries**: it has the type of the record, is not empty, lies in the
body and ends with it. -/
structure EmbeddedFile.CarriedBy (part : EmbeddedFile) (record : RecordFront) : Prop where
  /-- The type is that of the record. -/
  type : part.recordType = record.type
  /-- There is something of it. -/
  pos : 0 < part.length
  /-- It does not begin in front of the body. -/
  body_le : record.body ≤ part.offset
  /-- It ends where the body does. -/
  ends : part.offset + part.length = record.next

theorem EmbeddedFile.inBody_eq_some {type : UInt8} {body length skip : Nat} {part : EmbeddedFile}
    (cut : inBody type body length skip = some part) : part.CarriedBy ⟨type, body, length⟩ := by
  unfold inBody at cut
  split at cut
  · cases cut
  · next left =>
    cases cut
    refine ⟨rfl, ?_, Nat.le_add_right _ _, ?_⟩
    · show 0 < length - skip
      omega
    · show body + skip + (length - skip) = body + length
      omega

/-- Bytes may be skipped in two steps. -/
theorem EmbeddedFile.inBody_add (type : UInt8) (body length skip more : Nat) :
    inBody type (body + skip) (length - skip) more = inBody type body length (skip + more) := by
  unfold inBody
  by_cases short : length ≤ skip + more
  · rw [if_pos short, if_pos (by omega)]
  · rw [if_neg short, if_neg (by omega), Nat.add_assoc, Nat.sub_sub]

theorem RecordFront.carriedBy {record : RecordFront} {level : Level} {file : Bytes}
    {part : EmbeddedFile} (carried : record.embedded? level file = some part) :
    part.CarriedBy record := by
  obtain ⟨skip, -, cut⟩ := Option.bind_eq_some_iff.mp carried
  exact EmbeddedFile.inBody_eq_some cut

/-! ## Records in a row -/

namespace RecordFront

/-- **Records that follow one another** in a file: the first begins at an offset, and each
other one behind the body of the one before. A record of level one that reaches beyond the file
is none. -/
inductive Follow (level : Level) (file : Bytes) : (offset : Nat) → List RecordFront → Prop
  /-- No record. -/
  | nil {offset : Nat} : Follow level file offset []
  /-- A record and those behind it. -/
  | cons {offset : Nat} {record : RecordFront} {later : List RecordFront} :
    record.StandsAt level file offset → (level = .one → record.next ≤ file.size) →
    Follow level file record.next later → Follow level file offset (record :: later)

/-- The embedded files of records. -/
def embedded (level : Level) (file : Bytes) (records : List RecordFront) : List EmbeddedFile :=
  records.filterMap (·.embedded? level file)

theorem embedded_cons (level : Level) (file : Bytes) (record : RecordFront)
    (later : List RecordFront) :
    embedded level file (record :: later)
      = (record.embedded? level file).toList ++ embedded level file later := by
  unfold embedded
  rw [List.filterMap_cons]
  cases record.embedded? level file <;> rfl

namespace Follow

variable {level : Level} {file : Bytes} {offset : Nat} {records : List RecordFront}

/-- All bodies lie behind the offset. -/
theorem lt_body (follow : Follow level file offset records) {record : RecordFront}
    (among : record ∈ records) : offset < record.body := by
  induction follow with
  | nil => cases among
  | @cons offset first later stands _ _ ih =>
    have behind : offset < first.body := Nat.lt_of_le_of_lt (Nat.le_add_right _ _) stands.lt_body
    obtain rfl | among := List.mem_cons.mp among
    · exact behind
    · have later := ih among
      exact Nat.lt_trans (Nat.lt_of_lt_of_le behind (Nat.le_add_right _ _)) later

/-- **Bodies do not overlap**: each ends in front of the later ones. -/
theorem pairwise (follow : Follow level file offset records) :
    records.Pairwise fun record later => record.next < later.body := by
  induction follow with
  | nil => exact .nil
  | cons _ _ follow ih => exact .cons (fun _ => follow.lt_body) ih

/-- What a record begins with is in the file. -/
theorem lt_size (follow : Follow level file offset records) (some : records ≠ []) :
    offset < file.size := by
  cases follow with
  | nil => exact absurd rfl some
  | cons stands =>
    obtain ⟨inside, -⟩ := Array.getElem?_eq_some_iff.mp stands.type
    omega

/-- **Files in records**: each is carried by one of them, none overlaps a later one, and if one
does not end within the file, then the level is the second and it is the last one. -/
theorem embedded (follow : Follow level file offset records) :
    (∀ part ∈ RecordFront.embedded level file records,
        ∃ record ∈ records, part.CarriedBy record)
      ∧ (RecordFront.embedded level file records).Pairwise
          (fun part later => part.offset + part.length ≤ later.offset)
      ∧ ∀ part ∈ RecordFront.embedded level file records, file.size < part.offset + part.length →
          level = .two ∧ (RecordFront.embedded level file records).getLast? = some part := by
  refine ⟨fun part among => ?_, ?_, ?_⟩
  · obtain ⟨record, among, carried⟩ := List.mem_filterMap.mp among
    exact ⟨record, among, carriedBy carried⟩
  · refine List.pairwise_filterMap.mpr (follow.pairwise.imp ?_)
    intro record later behind part carried part' carried'
    have ends := (carriedBy carried).ends
    have begins := (carriedBy carried').body_le
    omega
  · induction follow with
    | nil => nofun
    | @cons offset record later stands within follow ih =>
      intro part among beyond
      obtain ⟨carrier, among, carried⟩ := List.mem_filterMap.mp among
      obtain rfl | among := List.mem_cons.mp among
      · -- the record reaches beyond the file, so that there is none behind it
        have reaches : file.size < carrier.next := (carriedBy carried).ends ▸ beyond
        have two : level = .two := by
          cases level with
          | one => exact absurd (within rfl) (Nat.not_le.mpr reaches)
          | two => rfl
        have none : later = [] := Decidable.byContradiction fun some =>
          Nat.lt_asymm reaches (follow.lt_size some)
        subst none
        rw [embedded_cons, carried]
        exact ⟨two, rfl⟩
      · have among : part ∈ RecordFront.embedded level file later :=
          List.mem_filterMap.mpr ⟨carrier, among, carried⟩
        obtain ⟨two, last⟩ := ih part among beyond
        rw [embedded_cons, List.getLast?_append, last]
        exact ⟨two, rfl⟩

end Follow

end RecordFront

/-! ## What a walk notes -/

namespace Walk

section

variable {σ α β : Type}

/-- **Walks that know the same embedded files.** -/
def SameEmbedded (walk walk' : Walk σ) : Prop := walk'.embedded = walk.embedded

instance : IsPreorder (Walk σ) SameEmbedded where
  refl _ := rfl
  trans _ _ _ first second := second.trans first

theorem onSource_sameEmbedded (step : EStateM WpgError σ α) :
    Upholds SameEmbedded (onSource step) := by
  intro walk
  unfold onSource
  cases step walk.source <;> rfl

/-- What is done behind a step does not matter if it notes nothing. -/
theorem embedded_bind {step : WalkM σ α} {next : α → WalkM σ β}
    (same : ∀ a, Upholds SameEmbedded (next a)) (walk : Walk σ) :
    (behind ((step >>= next) walk)).embedded = (behind (step walk)).embedded := by
  cases ran : step walk with
  | ok a mid =>
    rw [bind_of_ok ran]
    exact same a mid
  | error err mid => rw [bind_of_error ran]; rfl

/-- To note an embedded file does not fail. -/
theorem embedded_note (type : UInt8) (body length skip : Nat) (walk : Walk σ) :
    (behind (note type body length skip walk)).embedded.toList
      = walk.embedded.toList ++ (EmbeddedFile.inBody type body length skip).toList := by
  unfold note
  cases EmbeddedFile.inBody type body length skip with
  | some part => exact Array.toList_push
  | none => exact (List.append_nil _).symm

variable [ByteSource σ]

theorem loadEntries_sameEmbedded (level : Level) (start count : Nat) :
    Upholds SameEmbedded (loadEntries level start count : WalkM σ Unit) := by
  refine (onSource_sameEmbedded _).bind fun bytes => ?_
  dsimp only
  split
  · exact fun _ => rfl
  · exact .throw _

theorem readPalette_sameEmbedded (level : Level) (length : Nat) :
    Upholds SameEmbedded (readPalette level length : WalkM σ Unit) := by
  refine (onSource_sameEmbedded _).bind fun start => (onSource_sameEmbedded _).bind fun count => ?_
  dsimp only
  split
  · split
    · exact Upholds.bind (fun _ => rfl) fun _ _ => rfl
    · exact fun _ => rfl
  · split
    · exact fun _ => rfl
    · exact loadEntries_sameEmbedded _ _ _

/-- To settle a bitmap is no concern of the embedded files. -/
theorem settle_sameEmbedded [LawfulByteSource σ] (plan : WalkPlan) (found : Found) :
    Upholds SameEmbedded (settle plan found : WalkM σ (Option Nat)) := by
  cases found with
  | ended => exact .pure none
  | passed next => exact .pure (some next)
  | bitmap bitmap next =>
    refine Upholds.bind ((handleBitmap_proceeds plan bitmap).mono fun _ _ kept => kept.2.1)
      fun more => ?_
    split <;> exact .pure _

end

/-- **A step that notes the embedded file of a record**, if it is at the body, whether or not it
goes well. -/
def Notes (level : Level) (file : Bytes) (front : RecordFront)
    (step : WalkM Cursor (Option Bitmap)) : Prop :=
  ∀ walk, walk.source = ⟨file, front.body⟩ →
    (behind (step walk)).embedded.toList
      = walk.embedded.toList ++ (front.embedded? level file).toList

section

variable {level : Level} {file : Bytes} {front : RecordFront}

/-- Records of other types carry no file. -/
theorem Notes.of_same (nothing : front.skip? level file = none)
    {step : WalkM Cursor (Option Bitmap)} (same : Upholds SameEmbedded step) :
    Notes level file front step := by
  intro walk _
  unfold RecordFront.embedded?
  rw [nothing, same walk]
  exact (List.append_nil _).symm

/-- One that carries a file behind some bytes. -/
theorem Notes.of_note {skip : Nat} (carries : front.skip? level file = some skip) :
    Notes level file front (do note front.type front.body front.length skip; return none) := by
  intro walk _
  rw [embedded_bind (fun _ => .pure _), embedded_note]
  unfold RecordFront.embedded?
  rw [carries]
  rfl

theorem inspectOne_notes (file : Bytes) (front : RecordFront) :
    Notes .one file front (inspectOne front) := by
  unfold inspectOne
  split
  · next type =>
    exact .of_same (RecordFront.skip?_of_type type _ _)
      ((onSource_sameEmbedded _).bind fun _ => .pure _)
  · next type =>
    exact .of_same (RecordFront.skip?_of_type type _ _)
      ((onSource_sameEmbedded _).bind fun _ => .pure _)
  · next type =>
    exact .of_same (RecordFront.skip?_of_type type _ _)
      ((readPalette_sameEmbedded _ _).bind fun _ => .pure _)
  · next type => exact .of_note (RecordFront.skip?_of_type type _ _)
  · next type => exact .of_note (RecordFront.skip?_of_type type _ _)
  · refine .of_same ?_ (.pure none)
    unfold RecordFront.skip?
    split <;> first | contradiction | rfl

theorem inspectTwo_notes (file : Bytes) (front : RecordFront) :
    Notes .two file front (inspectTwo front) := by
  unfold inspectTwo
  split
  · next type =>
    refine .of_same (RecordFront.skip?_of_type type _ _) ?_
    exact (onSource_sameEmbedded _).bind fun _ => (onSource_sameEmbedded _).bind fun _ =>
      (onSource_sameEmbedded _).bind fun _ => Upholds.bind (fun _ => rfl) fun _ => .pure _
  · next type =>
    exact .of_same (RecordFront.skip?_of_type type _ _)
      ((readPalette_sameEmbedded _ _).bind fun _ => .pure _)
  · next type =>
    exact .of_same (RecordFront.skip?_of_type type _ _)
      (Upholds.get.bind fun _ => onSource_sameEmbedded _)
  · next type =>
    -- the number of bytes to skip is the first thing in the body
    intro walk here
    have skipped : read ByteSource.u16LE walk
        = .ok (ByteSource.u16LE (⟨file, front.body⟩ : Cursor)).1
          (walk.withSource (ByteSource.u16LE walk.source).2) := by
      rw [← here]
      rfl
    rw [bind_of_ok skipped, embedded_bind (fun _ => .pure _), embedded_note,
      EmbeddedFile.inBody_add]
    unfold RecordFront.embedded? RecordFront.skip?
    rw [type]
    rfl
  · next type =>
    refine .of_same (RecordFront.skip?_of_type type _ _) ?_
    exact Upholds.get.bind fun _ => (onSource_sameEmbedded _).bind fun _ =>
      Upholds.bind (fun _ => rfl) fun _ => .pure _
  · refine .of_same ?_ (.pure none)
    unfold RecordFront.skip?
    split <;> first | contradiction | rfl

/-- **The body of a record is inspected**, and its embedded file is noted. -/
theorem inspect_notes (level : Level) (file : Bytes) (front : RecordFront) :
    Notes level file front (inspect level front) := by
  cases level with
  | one => exact inspectOne_notes file front
  | two => exact inspectTwo_notes file front

end

/-- **A walk has noted the files of records** that follow one another from an offset on, and
nothing else. -/
structure NotesFrom (level : Level) (offset : Nat) (records : List RecordFront)
    (walk walk' : Walk Cursor) : Prop where
  /-- The records are there. -/
  follow : RecordFront.Follow level walk.source.bytes offset records
  /-- Their files are known behind those that were. -/
  embedded : walk'.embedded.toList
    = walk.embedded.toList ++ RecordFront.embedded level walk.source.bytes records

variable {plan : WalkPlan} {walk : Walk Cursor}

theorem NotesFrom.of_same {level : Level} {walk' : Walk Cursor} (same : SameEmbedded walk walk')
    (offset : Nat) : NotesFrom level offset [] walk walk' := by
  refine ⟨.nil, ?_⟩
  rw [same]
  exact (List.append_nil _).symm

/-- Behind a record others are noted. -/
theorem NotesFrom.cons {level : Level} {offset : Nat} {record : RecordFront}
    {later : List RecordFront} {mid last : Walk Cursor}
    (first : NotesFrom level offset [record] walk mid) (file : SameFile walk.source mid.source)
    (rest : NotesFrom level record.next later mid last) :
    NotesFrom level offset (record :: later) walk last := by
  obtain ⟨follow, noted⟩ := first
  obtain ⟨behind, noted'⟩ := rest
  have bytes : mid.source.bytes = walk.source.bytes := Cursor.sameFile_iff.mp file
  rw [bytes] at behind noted'
  cases follow with
  | cons stands ends =>
    refine ⟨.cons stands ends behind, ?_⟩
    rw [noted', noted, RecordFront.embedded_cons, RecordFront.embedded_cons, List.append_assoc,
      List.append_assoc]
    rfl

theorem Moved.sameEmbedded {walk walk' : Walk Cursor} (moved : Moved walk walk') :
    SameEmbedded walk walk' := by
  unfold SameEmbedded
  rw [moved.eq]

/-- **A step notes the file of the record that it comes by**, if it comes by one, whether or not
it goes well. If it goes on, then behind that record. -/
theorem step_notes (within : plan.fileSize ≤ walk.source.bytes.size) (offset : Nat) :
    ∃ records, NotesFrom plan.level offset records walk (behind (step plan offset walk))
      ∧ ∀ next walk', step plan offset walk = .ok (some next) walk' →
        ∃ record, records = [record] ∧ record.next = next := by
  have settled : (behind (step plan offset walk)).embedded
      = (behind (scan plan offset walk)).embedded := by
    rw [step_eq_scan]
    exact embedded_bind (settle_sameEmbedded plan) walk
  have scanned : ∀ {next walk'}, step plan offset walk = .ok (some next) walk' →
      ∃ found mid, scan plan offset walk = .ok found mid ∧ found.next? = some next := by
    intro next walk' stepped
    obtain ⟨mid, scanned, -⟩ := step_ok stepped
    exact ⟨_, mid, scanned, (step_ok_some stepped).2⟩
  have moved := front_moved plan offset walk
  unfold scan at settled scanned
  cases read : front plan offset walk with
  | error err mid =>
    rw [read] at moved
    rw [bind_of_error read] at settled scanned
    refine ⟨[], .of_same (settled.trans moved.sameEmbedded) offset, fun next walk' stepped => ?_⟩
    obtain ⟨_, _, failed, -⟩ := scanned stepped
    cases failed
  | ok front? mid =>
    rw [read] at moved
    rw [bind_of_ok read] at settled scanned
    cases front? with
    | none =>
      refine ⟨[], .of_same (settled.trans moved.sameEmbedded) offset, fun next walk' stepped => ?_⟩
      obtain ⟨_, _, ⟨⟩, next?⟩ := scanned stepped
      cases next?
    | some record =>
      obtain ⟨stands, ends, here⟩ := front_ok read
      have bytes : mid.source.bytes = walk.source.bytes := Cursor.sameFile_iff.mp moved.file
      refine ⟨[record], ⟨.cons stands (fun one => Nat.le_trans (ends one) within) .nil, ?_⟩, ?_⟩
      · have same : mid.embedded = walk.embedded := moved.sameEmbedded
        dsimp only at settled
        rw [settled, embedded_bind (fun _ => .pure _),
          inspect_notes plan.level walk.source.bytes record mid (by rw [← bytes, ← here]), same,
          RecordFront.embedded_cons]
        exact congrArg (walk.embedded.toList ++ ·) (List.append_nil _).symm
      · intro next walk' stepped
        obtain ⟨found, _, scanned, next?⟩ := scanned stepped
        obtain ⟨bitmap?, _, _, ⟨⟩⟩ := exists_of_bind_ok scanned
        refine ⟨record, rfl, ?_⟩
        cases bitmap? <;> exact Option.some.inj next?

/-- **A walk notes the files of the records that it comes by**, whether or not it goes well. -/
theorem steps_notes (walk : Walk Cursor) (fuel offset : Nat)
    (within : plan.fileSize ≤ walk.source.bytes.size) :
    ∃ records, NotesFrom plan.level offset records walk
      (behind (steps plan fuel offset walk)) := by
  induction fuel generalizing offset walk with
  | zero => exact ⟨[], .of_same rfl offset⟩
  | succ fuel ih =>
    unfold steps
    split
    · exact ⟨[], .of_same rfl offset⟩
    obtain ⟨records, noted, goesOn⟩ := step_notes within offset
    have file := (step_proceeds plan offset walk).file
    cases stepped : step plan offset walk with
    | error err walk' =>
      rw [stepped] at noted
      rw [bind_of_error stepped]
      exact ⟨records, noted⟩
    | ok next? walk' =>
      rw [stepped] at noted file
      rw [bind_of_ok stepped]
      cases next? with
      | none => exact ⟨records, noted⟩
      | some next =>
        obtain ⟨record, rfl, rfl⟩ := goesOn next walk' stepped
        have bytes : walk'.source.bytes = walk.source.bytes := Cursor.sameFile_iff.mp file
        obtain ⟨later, rest⟩ := ih walk' record.next (by rw [bytes]; exact within)
        exact ⟨record :: later, noted.cons file rest⟩

end Walk

/-! ## What a decoder knows -/

namespace Decoder

/-- **A decoder that knows nothing but its file**: the header is that of the file, and the embedded
files are those of records behind it. -/
structure KnowsFile (file : Bytes) (decoder : Decoder Cursor) : Prop where
  /-- It has this file. -/
  bytes : decoder.source.bytes = file
  /-- The file is not smaller than what is taken for it. -/
  fileSize : decoder.fileSize ≤ file.size
  /-- A header that is known stands in front. -/
  header : ∀ header, decoder.header = some header → header.bytes <+: file.toList
  /-- Embedded files that are known lie in records behind a header. -/
  embedded : decoder.embedded = #[] ∨ ∃ (header : Header) (level : Level) (records : _),
    header.bytes <+: file.toList ∧ header.level? = some level
      ∧ RecordFront.Follow level file header.dataOffset.toNat records
      ∧ decoder.embedded.toList = RecordFront.embedded level file records

namespace KnowsFile

variable {file : Bytes} {decoder : Decoder Cursor}

/-- To move the source does not concern what is known. -/
theorem withSource (knows : KnowsFile file decoder) {source : Cursor}
    (bytes : source.bytes = file) : KnowsFile file { decoder with source } :=
  ⟨bytes, knows.fileSize, knows.header, knows.embedded⟩

/-- **A walk replaces the embedded files that are known.** -/
theorem walk (knows : KnowsFile file decoder) (headersOnly : Bool) (stop : Stop) :
    KnowsFile file (decoder.walk headersOnly stop).2 := by
  cases planned : decoder.plan? headersOnly with
  | none =>
    obtain ⟨err, failed⟩ := walk_of_plan?_eq_none planned stop
    rw [failed]
    exact knows
  | some plan =>
    have left : (decoder.walk headersOnly stop).2
        = decoder.after (behind (Walk.run plan (Walk.make plan.level decoder.source stop))) := by
      rw [walk_eq planned]
      cases Walk.run plan (Walk.make plan.level decoder.source stop) <;> rfl
    rw [left]
    obtain ⟨header, known, level, levelled, drawn⟩ := plan?_eq_some.mp planned
    have within : plan.fileSize ≤ decoder.source.bytes.size := by
      rw [knows.bytes, drawn]
      exact knows.fileSize
    have proceeds := Walk.steps_proceeds plan (plan.fileSize - plan.start) plan.start
      (Walk.make plan.level decoder.source stop)
    obtain ⟨records, follow, noted⟩ := Walk.steps_notes (Walk.make plan.level decoder.source stop)
      (plan.fileSize - plan.start) plan.start within
    have start : plan.level = level ∧ plan.start = header.dataOffset.toNat := by
      rw [drawn]
      exact ⟨rfl, rfl⟩
    change RecordFront.Follow _ decoder.source.bytes _ _ at follow
    change _ = [] ++ RecordFront.embedded _ decoder.source.bytes _ at noted
    rw [knows.bytes, start.1, start.2] at follow
    rw [knows.bytes, List.nil_append] at noted
    exact
      { bytes := (Cursor.sameFile_iff.mp proceeds.file).trans knows.bytes
        fileSize := knows.fileSize
        header := knows.header
        embedded := .inr ⟨header, level, records, knows.header header known, levelled, follow,
          start.1 ▸ noted⟩ }

/-- **The header that is read is that of the file**, and what is known of the embedded files is
what a walk over its records finds. -/
theorem decodeHeaders (knows : KnowsFile file decoder) :
    KnowsFile file (behind (Decoder.decodeHeaders decoder)) := by
  cases unread : decoder.headersDecoded with
  | true =>
    rw [decodeHeaders_of_decoded unread]
    exact knows
  | false =>
    rw [decodeHeaders_of_unread unread]
    have moved := readHeader_moved decoder
    cases read : readHeader decoder with
    | error err failed =>
      rw [read] at moved
      have eq : failed = { decoder with source := failed.source } := moved.eq
      have bytes := (Cursor.sameFile_iff.mp moved.file).trans knows.bytes
      show KnowsFile file failed
      rw [eq]
      exact knows.withSource bytes
    | ok header mid =>
      rw [read] at moved
      have length := ByteSource.length_sameFile mid.source
      have bytes : mid.source.bytes = file :=
        (Cursor.sameFile_iff.mp moved.file).trans knows.bytes
      dsimp only
      cases measured : (ByteSource.length mid.source : EStateM.Result SourceError Cursor Nat) with
      | error cause source =>
        rw [measured] at length
        exact knows.withSource ((Cursor.sameFile_iff.mp length).trans bytes)
      | ok size' source =>
        rw [measured] at length
        obtain ⟨stands, -⟩ := readHeader_ok read
        have told : KnowsFile file (decoder.told source header size') :=
          { bytes := (Cursor.sameFile_iff.mp length).trans bytes
            fileSize := by
              rw [ByteSource.eq_size_of_length_ok measured, bytes]
              exact Nat.min_le_left _ _
            header := by
              rintro _ ⟨⟩
              exact knows.bytes ▸ stands
            embedded := knows.embedded }
        have walked := told.walk true .never
        dsimp only
        generalize (decoder.told source header size').walk true .never = result at walked ⊢
        obtain ⟨⟨_ | _, _⟩, known⟩ := result
        · exact walked
        · exact ⟨walked.bytes, walked.fileSize, walked.header, walked.embedded⟩

theorem decodeWithStop (knows : KnowsFile file decoder) (stop : Stop) :
    KnowsFile file (decoder.decodeWithStop stop).2 := by
  have opened := knows.decodeHeaders
  unfold Decoder.decodeWithStop
  generalize Decoder.decodeHeaders decoder = result at opened ⊢
  cases result with
  | error err failed => exact opened
  | ok _ known =>
    have walked := KnowsFile.walk opened false stop
    dsimp only [behind] at walked ⊢
    generalize known.walk false stop = result at walked ⊢
    obtain ⟨⟨_ | frames, _⟩, last⟩ := result
    · exact walked
    · dsimp only
      split <;> exact walked

/-- So it is behind every call. -/
theorem performAll (knows : KnowsFile file decoder) (calls : List Call) :
    KnowsFile file (decoder.performAll calls) := by
  induction calls generalizing decoder with
  | nil => exact knows
  | cons call calls ih =>
    refine ih ?_
    cases call with
    | headers => exact knows.decodeHeaders
    | decode => exact knows.decodeWithStop .never
    | decodeWithStop stop => exact knows.decodeWithStop stop

end KnowsFile

/-- **The embedded files that a decoder knows** behind any calls, whether or not they went well.
They are those of records of the file that follow one another from the first one on. Each lies in
the body of its record and ends where that ends, and in front of the later ones. Unless the level
is the second and the last of them lies in a record that reaches beyond the file, they lie within
the file. -/
theorem embedded_performAll (file : Bytes) (position : Nat) (options : Options)
    (calls : List Call) :
    let decoder := performAll ({ source := ⟨file, position⟩, options } : Decoder Cursor) calls
    let parts := decoder.embedded.toList
    parts = [] ∨ ∃ (header : Header) (level : Level) (records : List RecordFront),
      header.bytes <+: file.toList ∧ header.level? = some level
        ∧ RecordFront.Follow level file header.dataOffset.toNat records
        ∧ parts = records.filterMap (·.embedded? level file)
        ∧ (∀ part ∈ parts, ∃ record ∈ records, part.CarriedBy record)
        ∧ parts.Pairwise (fun part later => part.offset + part.length ≤ later.offset)
        ∧ ∀ part ∈ parts, file.size < part.offset + part.length →
            level = .two ∧ parts.getLast? = some part := by
  intro decoder parts
  have fresh : KnowsFile file ({ source := ⟨file, position⟩, options } : Decoder Cursor) :=
    ⟨rfl, Nat.zero_le _, nofun, .inl rfl⟩
  obtain none | ⟨header, level, records, stands, levelled, follow, known⟩ :=
    (fresh.performAll calls).embedded
  · exact .inl (congrArg Array.toList none)
  · have known : parts = RecordFront.embedded level file records := known
    obtain ⟨carried, apart, last⟩ := follow.embedded
    refine .inr ⟨header, level, records, stands, levelled, follow, known, ?_, ?_, ?_⟩
    · rw [known]
      exact carried
    · rw [known]
      exact apart
    · rw [known]
      exact last

end Decoder

/-- A record of level two that carries a file, and claims to be four bytes longer than it is. -/
def Bytes.overrunEmbedded : Bytes := #[0, 0x12, 0, 9, 0, 0, 0xAA, 0xBB, 0xCC]

set_option maxRecDepth 4000 in
/-- **A file that cannot be cut out**: the header of a file of level two is read, and an embedded
file is known that ends four bytes behind the last one. -/
theorem Decoder.embedded_overrunEmbedded :
    let file := Bytes.codedHeader ++ Bytes.overrunEmbedded
    let decoder := performAll ({ source := .ofBytes file } : Decoder Cursor) [.headers]
    decoder.headersDecoded = true ∧ decoder.embedded = #[⟨0x12, 22, 7⟩] ∧ file.size = 25
      ∧ ¬ ∀ part ∈ decoder.embedded, part.offset + part.length ≤ file.size := by
  decide +kernel

end WpgRaster
