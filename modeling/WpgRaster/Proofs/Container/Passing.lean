import WpgRaster.Proofs.Container.Grammar
import WpgRaster.Proofs.Container.Scan
import WpgRaster.Proofs.Source.Lawful

/-!
# What a step of a walk leaves alone

Scanning a record reads the file and may load a palette, note an embedded
file or set a transform; the frames, the stop and the first bitmap are as
before (`Walk.Passes`). So nothing but settling a bitmap concerns those. And if
a bitmap is found, then its record has the type of one, and nothing happened
but that the source was moved (`Walk.scan_bitmap`).
-/

namespace WpgRaster

variable {σ : Type} [ByteSource σ] [LawfulByteSource σ]

open ByteSource (file u16LE_sameFile u32LE_sameFile)
open LawfulByteSource

namespace Transform

theorem skipIds_sameFile (precision : UInt8) (flags : UInt16) (source : σ) :
    SameFile source (skipIds precision flags source) := by
  have u16 : ∀ source : σ, file (ByteSource.u16LE source).2 = file source := u16LE_sameFile
  have u32 : ∀ source : σ, file (ByteSource.u32LE source).2 = file source := u32LE_sameFile
  unfold SameFile skipIds
  dsimp only
  repeat' split
  all_goals simp only [u16, u32]

/-- **Reading a transform leaves the file alone.** -/
theorem read_sameFile (precision : UInt8) (source : σ) :
    SameFile source (read precision source).2 := by
  have u16 : ∀ source : σ, file (ByteSource.u16LE source).2 = file source := u16LE_sameFile
  have u32 : ∀ source : σ, file (ByteSource.u32LE source).2 = file source := u32LE_sameFile
  have ids : ∀ precision flags (source : σ), file (skipIds precision flags source) = file source :=
    skipIds_sameFile
  have pair : ∀ source : σ, file (readPair source).2 = file source := fun source =>
    (u32 _).trans (u32 source)
  have shift : ∀ source : σ, file (readShift source).2 = file source := fun source =>
    (u16 _).trans (u32 source)
  have perspective : ∀ source : σ, file (readPerspective source).2 = file source := fun source =>
    (u16 _).trans (u16 source)
  unfold SameFile read
  dsimp only
  repeat' split
  all_goals simp only [u16, pair, shift, perspective, u32, ids]

end Transform

namespace Bitmap

theorem word_sameFile : Upholds SameFile (word : EStateM WpgError σ UInt16) := u16LE_sameFile

theorem byte_sameFile : Upholds SameFile (byte : EStateM WpgError σ UInt8) := nextOrZero_sameFile

theorem readSize_sameFile : Upholds SameFile (readSize : EStateM WpgError σ (Nat × Nat)) := by
  refine word_sameFile.bind fun width => word_sameFile.bind fun height => ?_
  dsimp only
  split
  · exact .throw _
  · exact .pure _

theorem readPlain_sameFile : Upholds SameFile (readPlain : EStateM WpgError σ Bitmap) :=
  readSize_sameFile.bind fun _ => word_sameFile.bind fun _ => word_sameFile.bind fun _ =>
    word_sameFile.bind fun _ => .pure _

theorem readPlaced_sameFile : Upholds SameFile (readPlaced : EStateM WpgError σ Bitmap) :=
  word_sameFile.bind fun _ => word_sameFile.bind fun _ => word_sameFile.bind fun _ =>
    word_sameFile.bind fun _ => word_sameFile.bind fun _ => readSize_sameFile.bind fun _ =>
    word_sameFile.bind fun _ => word_sameFile.bind fun _ => word_sameFile.bind fun _ => .pure _

theorem readCoded_sameFile (transform : Transform) :
    Upholds SameFile (readCoded transform : EStateM WpgError σ (Option Bitmap)) := by
  refine readSize_sameFile.bind fun _ => byte_sameFile.bind fun _ => byte_sameFile.bind fun _ => ?_
  split <;> exact .pure _

end Bitmap

namespace Walk

/-! ## Moving the source -/

/-- **Walks between which only the source was moved.** -/
structure Moved (walk walk' : Walk σ) : Prop where
  /-- The file is the same. -/
  file : SameFile walk.source walk'.source
  /-- So is everything else. -/
  eq : walk' = { walk with source := walk'.source }

instance : IsPreorder (Walk σ) Moved where
  refl walk := ⟨.refl walk.source, rfl⟩
  trans _ _ _ first second := ⟨first.file.trans second.file, by rw [second.eq, first.eq]⟩

section

variable {α : Type}

omit [LawfulByteSource σ]

theorem onSource_moved {step : EStateM WpgError σ α} (upholds : Upholds SameFile step) :
    Upholds Moved (onSource step) := by
  intro walk
  have upheld := upholds walk.source
  unfold onSource
  generalize step walk.source = result at upheld ⊢
  cases result with
  | ok a source => exact ⟨upheld, rfl⟩
  | error err source => exact ⟨upheld, rfl⟩

theorem read_moved {step : σ → α × σ} (same : ∀ source, SameFile source (step source).2) :
    Upholds Moved (read step) :=
  onSource_moved same

theorem require_moved {step : SourceM σ α} (upholds : Upholds SameFile step) :
    Upholds Moved (require step) := by
  refine onSource_moved fun source => ?_
  have upheld := upholds source
  unfold EStateM.adaptExcept
  generalize step source = result at upheld ⊢
  cases result with
  | ok a source => exact upheld
  | error err source => exact upheld

theorem attempt_moved {step : SourceM σ α} (upholds : Upholds SameFile step) :
    Upholds Moved (attempt step) := by
  intro walk
  have upheld := upholds walk.source
  unfold attempt
  generalize step walk.source = result at upheld ⊢
  cases result with
  | ok a source => exact ⟨upheld, rfl⟩
  | error err source => exact ⟨upheld, rfl⟩

theorem atEnd_moved : Upholds Moved (atEnd : WalkM σ Bool) := by
  intro walk
  unfold atEnd
  split <;> exact refl_of Moved walk

theorem position_moved : Upholds Moved (position : WalkM σ Nat) :=
  fun walk => refl_of Moved walk

end

/-- **What stands in front of a body is read**, and that is all. -/
theorem front_moved (plan : WalkPlan) (offset : Nat) :
    Upholds Moved (front plan offset : WalkM σ (Option RecordFront)) := by
  have sought : Upholds Moved (require (ByteSource.seek (.start offset)) : WalkM σ Nat) :=
    require_moved (seek_sameFile _)
  have next : Upholds Moved (attempt ByteSource.next : WalkM σ (Option UInt8)) :=
    attempt_moved ByteSource.next_sameFile
  have number : Upholds Moved (read VarInt.read : WalkM σ VarInt) := read_moved VarInt.read_sameFile
  unfold front
  split
  · refine sought.bind fun _ => next.bind fun type? => ?_
    split
    · refine number.bind fun length => ?_
      dsimp only
      split
      · exact fun walk => refl_of Moved walk
      · refine atEnd_moved.bind fun ended => ?_
        split
        · exact .pure _
        · refine position_moved.bind fun body => ?_
          split <;> exact .pure _
    · exact .pure _
  · refine sought.bind fun _ => next.bind fun class? => ?_
    split
    · refine next.bind fun type? => ?_
      split
      · refine number.bind fun _ => number.bind fun length => atEnd_moved.bind fun ended => ?_
        split
        · exact .pure _
        · exact position_moved.bind fun body => .pure _
      · exact .pure _
    · exact .pure _

/-! ## Scanning -/

/-- **Walks between which no bitmap was settled.** -/
structure Passes (walk walk' : Walk σ) : Prop where
  /-- The file is the same. -/
  file : SameFile walk.source walk'.source
  /-- So is the stop. -/
  stop : walk'.stop = walk.stop
  /-- So are the frames. -/
  frames : walk'.frames = walk.frames
  /-- No bitmap was taken down. -/
  firstBitmap : walk'.firstBitmap = walk.firstBitmap
  /-- Embedded files may have been noted. -/
  embedded : walk.embedded.toList <+: walk'.embedded.toList

instance : IsPreorder (Walk σ) Passes where
  refl walk := ⟨.refl walk.source, rfl, rfl, rfl, List.prefix_rfl⟩
  trans _ _ _ first second :=
    { file := first.file.trans second.file
      stop := second.stop.trans first.stop
      frames := second.frames.trans first.frames
      firstBitmap := second.firstBitmap.trans first.firstBitmap
      embedded := first.embedded.trans second.embedded }

section

variable {α : Type}

omit [LawfulByteSource σ]

theorem Moved.passes {walk walk' : Walk σ} (moved : Moved walk walk') : Passes walk walk' := by
  obtain ⟨file, eq⟩ := moved
  rw [eq]
  exact ⟨file, rfl, rfl, rfl, List.prefix_rfl⟩

/-- Moving the source settles no bitmap. -/
theorem passes_of_moved {step : WalkM σ α} (moved : Upholds Moved step) : Upholds Passes step :=
  moved.mono fun _ _ => Moved.passes

theorem note_passes (type : UInt8) (body length skip : Nat) :
    Upholds Passes (note type body length skip : WalkM σ Unit) := by
  intro walk
  unfold note
  cases EmbeddedFile.inBody type body length skip with
  | some file =>
    refine ⟨.refl walk.source, rfl, rfl, rfl, ?_⟩
    show walk.embedded.toList <+: (walk.embedded.push file).toList
    rw [Array.toList_push]
    exact List.prefix_append ..
  | none => exact refl_of Passes walk

/-- Palettes, transforms and precisions are no concern of the others. -/
theorem modify_passes {change : Walk σ → Walk σ}
    (same : ∀ walk, (change walk).source = walk.source ∧ (change walk).stop = walk.stop
      ∧ (change walk).frames = walk.frames ∧ (change walk).firstBitmap = walk.firstBitmap
      ∧ (change walk).embedded = walk.embedded) :
    Upholds Passes (modify change : WalkM σ Unit) := by
  intro walk
  obtain ⟨source, stop, frames, firstBitmap, embedded⟩ := same walk
  exact ⟨congrArg file source, stop, frames, firstBitmap,
    embedded ▸ List.prefix_rfl⟩

end

theorem loadEntries_passes (level : Level) (start count : Nat) :
    Upholds Passes (loadEntries level start count : WalkM σ Unit) := by
  refine (passes_of_moved (require_moved (takeUpTo_sameFile _))).bind fun bytes => ?_
  dsimp only
  split
  · exact modify_passes fun _ => ⟨rfl, rfl, rfl, rfl, rfl⟩
  · exact .throw _

theorem readPalette_passes (level : Level) (length : Nat) :
    Upholds Passes (readPalette level length : WalkM σ Unit) := by
  refine (passes_of_moved (read_moved u16LE_sameFile)).bind fun start => ?_
  refine (passes_of_moved (read_moved u16LE_sameFile)).bind fun count => ?_
  dsimp only
  split
  · have unloads : Upholds Passes
        (modify fun walk => { walk with palette := level.emptyPalette } : WalkM σ Unit) :=
      modify_passes fun _ => ⟨rfl, rfl, rfl, rfl, rfl⟩
    split
    · refine Upholds.bind (modify_passes ?_) fun _ => unloads
      exact fun _ => ⟨rfl, rfl, rfl, rfl, rfl⟩
    · exact unloads
  · split
    · exact modify_passes fun _ => ⟨rfl, rfl, rfl, rfl, rfl⟩
    · exact loadEntries_passes _ _ _

theorem inspectOne_passes (front : RecordFront) :
    Upholds Passes (inspectOne front : WalkM σ (Option Bitmap)) := by
  unfold inspectOne
  split
  · exact (passes_of_moved (onSource_moved Bitmap.readPlain_sameFile)).bind fun _ => .pure _
  · exact (passes_of_moved (onSource_moved Bitmap.readPlaced_sameFile)).bind fun _ => .pure _
  · exact (readPalette_passes _ _).bind fun _ => .pure _
  · exact (note_passes _ _ _ _).bind fun _ => .pure _
  · exact (note_passes _ _ _ _).bind fun _ => .pure _
  · exact .pure _

theorem inspectTwo_passes (front : RecordFront) :
    Upholds Passes (inspectTwo front : WalkM σ (Option Bitmap)) := by
  have word : Upholds Passes (read ByteSource.u16LE : WalkM σ UInt16) :=
    passes_of_moved (read_moved u16LE_sameFile)
  unfold inspectTwo
  split
  · refine word.bind fun _ => word.bind fun _ =>
      (passes_of_moved (read_moved nextOrZero_sameFile)).bind fun precision => ?_
    refine Upholds.bind (modify_passes ?_) fun _ => .pure _
    exact fun _ => ⟨rfl, rfl, rfl, rfl, rfl⟩
  · exact (readPalette_passes _ _).bind fun _ => .pure _
  · exact Upholds.get.bind fun walk =>
      passes_of_moved (onSource_moved (Bitmap.readCoded_sameFile walk.transform))
  · exact word.bind fun _ => (note_passes _ _ _ _).bind fun _ => .pure _
  · refine Upholds.get.bind fun walk =>
      (passes_of_moved (read_moved (Transform.read_sameFile _))).bind fun transform => ?_
    refine Upholds.bind (modify_passes ?_) fun _ => .pure _
    exact fun _ => ⟨rfl, rfl, rfl, rfl, rfl⟩
  · exact .pure _

/-- **Scanning a record settles no bitmap.** -/
theorem scan_passes (plan : WalkPlan) (offset : Nat) :
    Upholds Passes (scan plan offset : WalkM σ Found) := by
  refine (passes_of_moved (front_moved plan offset)).bind fun front? => ?_
  split
  · refine Upholds.bind ?_ fun _ => .pure _
    unfold inspect
    split
    · exact inspectOne_passes _
    · exact inspectTwo_passes _
  · exact .pure _

/-! ## Finding bitmaps -/

/-- **A step that finds bitmaps in records of their types only**, and moves the
source to find one, but does nothing else. -/
def FindsBitmaps (types : List UInt8) (type : UInt8) (step : WalkM σ (Option Bitmap)) : Prop :=
  ∀ walk bitmap walk', step walk = .ok (some bitmap) walk' → type ∈ types ∧ Moved walk walk'

namespace FindsBitmaps

variable {types : List UInt8} {type : UInt8}

omit [LawfulByteSource σ]

/-- A step that reads one finds one. -/
theorem of_moved (among : type ∈ types) {step : WalkM σ (Option Bitmap)}
    (moved : Upholds Moved step) : FindsBitmaps types type step :=
  fun _ _ _ found => ⟨among, moved.of_ok found⟩

/-- A step that answers that there is none does not. -/
theorem nothing {α : Type} (step : WalkM σ α) :
    FindsBitmaps types type (do let _ ← step; return none : WalkM σ (Option Bitmap)) := by
  intro walk bitmap walk' found
  obtain ⟨_, _, _, last⟩ := exists_of_bind_ok found
  cases last

end FindsBitmaps

theorem inspectOne_findsBitmaps (front : RecordFront) :
    FindsBitmaps Level.one.bitmapTypes front.type (inspectOne front : WalkM σ (Option Bitmap)) := by
  unfold inspectOne
  split
  · next type =>
    exact .of_moved (by rw [type]; decide)
      ((onSource_moved Bitmap.readPlain_sameFile).bind fun _ => .pure _)
  · next type =>
    exact .of_moved (by rw [type]; decide)
      ((onSource_moved Bitmap.readPlaced_sameFile).bind fun _ => .pure _)
  · exact .nothing _
  · exact .nothing _
  · exact .nothing _
  · exact .nothing (pure ())

theorem inspectTwo_findsBitmaps (front : RecordFront) :
    FindsBitmaps Level.two.bitmapTypes front.type (inspectTwo front : WalkM σ (Option Bitmap)) := by
  unfold inspectTwo
  split
  · simp only [← bind_assoc]
    exact .nothing _
  · exact .nothing _
  · next type =>
    exact .of_moved (by rw [type]; decide)
      (Upholds.get.bind fun walk => onSource_moved (Bitmap.readCoded_sameFile _))
  · simp only [← bind_assoc]
    exact .nothing _
  · simp only [← bind_assoc]
    exact .nothing _
  · exact .nothing (pure ())

/-- **If a bitmap is found**, then the record has the type of one, and the
source was moved and nothing else. -/
theorem inspect_findsBitmaps (level : Level) (front : RecordFront) :
    FindsBitmaps level.bitmapTypes front.type (inspect level front : WalkM σ (Option Bitmap)) := by
  cases level with
  | one => exact inspectOne_findsBitmaps front
  | two => exact inspectTwo_findsBitmaps front

/-- What was scanned is the front of a record and its body. -/
theorem scan_bitmap {plan : WalkPlan} {offset next : Nat} {bitmap : Bitmap} {walk walk' : Walk σ}
    (scanned : scan plan offset walk = .ok (.bitmap bitmap next) walk') :
    ∃ front mid, Walk.front plan offset walk = .ok (some front) mid ∧ front.next = next
      ∧ front.type ∈ plan.level.bitmapTypes
      ∧ inspect plan.level front mid = .ok (some bitmap) walk' ∧ Moved walk walk' := by
  obtain ⟨front?, mid, read, scanned⟩ := exists_of_bind_ok scanned
  cases front? with
  | none => cases scanned
  | some front =>
    obtain ⟨bitmap?, last, inspected, scanned⟩ := exists_of_bind_ok scanned
    cases bitmap? with
    | none => cases scanned
    | some found =>
      cases scanned
      obtain ⟨among, moved⟩ := inspect_findsBitmaps plan.level front mid bitmap walk' inspected
      exact ⟨front, mid, read, rfl, among, inspected,
        trans_of Moved ((front_moved plan offset).of_ok read) moved⟩

end Walk

end WpgRaster
