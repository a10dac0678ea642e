import WpgRaster.Proofs.Container.Limits
import WpgRaster.Proofs.Container.PaletteRecords

/-!
# Bitmaps and the palettes in front of them

A walk hands bitmaps over to be decoded, each with what is known of palettes since the
bitmap before it (`Handover`). They are all there is to the frames of a file
(`Decoder.frames_of_handovers`). What is decoded depends on the palette records since
the last handover, and not on anything else of them than what they hand over together
(`Decoder.decodeWithStop_handovers`): as a rule, this is what the last one says.
-/

namespace WpgRaster

variable {σ : Type}

/-- **A bitmap that is handed over** to be decoded. -/
structure Handover (σ : Type) where
  /-- The plan of the walk. -/
  plan : WalkPlan
  /-- The palette records since the bitmap that was handed over before, or since the
  first record. -/
  palettes : List PaletteRecord
  /-- The bitmap. -/
  bitmap : Bitmap
  /-- The walk, whose source is at the raster. -/
  walk : Walk σ

namespace Walk

/-- **What is known behind some palette records**: the fault that is pending and, if
there is none, the palette that is loaded. -/
structure Since (level : Level) (records : List PaletteRecord) (walk : Walk σ) : Prop where
  /-- The fault is the one that they leave pending. -/
  paletteError : walk.paletteError = PaletteRecord.pending? level records
  /-- Without one, the palette is the one that they load. -/
  palette : walk.paletteError = none → walk.palette = PaletteRecord.loaded level records

/-- There were none since the palette was unloaded. -/
theorem since_nil {level : Level} {walk : Walk σ} (palette : walk.palette = level.emptyPalette)
    (paletteError : walk.paletteError = none) : Since level [] walk := by
  refine ⟨?_, fun _ => palette⟩
  rw [paletteError]
  cases level <;> rfl

namespace Since

variable {level : Level} {records : List PaletteRecord} {walk walk' : Walk σ}

/-- One more record, and what it leaves. -/
theorem append (since : Since level records walk) {record : PaletteRecord}
    (left : Leaves level record walk walk') : Since level (records ++ [record]) walk' where
  paletteError := by
    rw [left.paletteError, since.paletteError, PaletteRecord.pending?_append]
  palette sound := by
    rw [left.palette sound, PaletteRecord.loaded_append]

/-- Records without a palette change nothing. -/
theorem of_same (since : Since level records walk) (same : SamePalette walk walk') :
    Since level records walk' where
  paletteError := same.paletteError.trans since.paletteError
  palette sound := same.palette.trans (since.palette (same.paletteError.symm.trans sound))

end Since

variable [ByteSource σ]

/-- **Decoding a bitmap with what palette records hand over**, whatever is loaded. -/
def decodeWith (plan : WalkPlan) (bitmap : Bitmap) (handed : Except RasterError Palette)
    (walk : Walk σ) : EStateM.Result RasterError (Walk σ) Frame :=
  match handed with
  | .error err => .error err (walk.unload plan.level)
  | .ok palette => decodeBitmap plan bitmap { walk with palette, paletteError := none }

/-- **A bitmap is decoded with what the records since the last one hand over.** -/
theorem Since.decodeBitmap_eq {plan : WalkPlan} {records : List PaletteRecord} {walk : Walk σ}
    (since : Since plan.level records walk) (bitmap : Bitmap) :
    decodeBitmap plan bitmap walk
      = decodeWith plan bitmap (PaletteRecord.handed plan.level records) walk := by
  unfold PaletteRecord.handed decodeWith
  rw [← since.paletteError]
  cases failed : walk.paletteError with
  | some err =>
    rw [Walk.decodeBitmap_eq, failed]
  | none =>
    dsimp only
    rw [← since.palette failed, ← failed]

/-- The frame has the colormap that is made of the palette. -/
theorem colormap_of_decodeWith {plan : WalkPlan} {bitmap : Bitmap}
    {handed : Except RasterError Palette} {walk walk' : Walk σ} {frame : Frame}
    (decoded : decodeWith plan bitmap handed walk = .ok frame walk') :
    ∃ palette, handed = .ok palette
      ∧ Colormap.make plan.level (some palette) bitmap.depth = .ok frame.colormap := by
  cases handed with
  | error err => cases decoded
  | ok palette =>
    obtain ⟨-, colormap, blank, status, prepared, -, rfl⟩ := exists_of_decodeBitmap_ok decoded
    obtain ⟨space, made, -⟩ := Bitmap.exists_of_prepare_ok prepared
    exact ⟨palette, rfl, made⟩

/-! ## Walking from one bitmap to the next -/

/-- **The bitmaps that a walk hands over** from an offset on, where it has come by some
palette records since the last one. -/
def handovers (plan : WalkPlan) :
    (fuel offset : Nat) → List PaletteRecord → Walk σ → List (Handover σ)
  | 0, _, _, _ => []
  | fuel + 1, offset, records, walk =>
    if plan.fileSize ≤ offset then []
    else match scan plan offset walk with
      | .ok (.passed next) walk' =>
        handovers plan fuel next (records ++ (paletteAt? plan offset walk).toList) walk'
      | .ok (.bitmap bitmap next) mid =>
        if (bitmapFault? plan.options bitmap).isSome then []
        else
          ⟨plan, records, bitmap, mid⟩ ::
            match handleBitmap plan bitmap mid with
            | .ok true walk' => handovers plan fuel next [] walk'
            | _ => []
      | _ => []

section

variable {plan : WalkPlan} {fuel offset next : Nat} {walk mid : Walk σ} {bitmap : Bitmap}

/-- What is no bitmap is passed over. -/
theorem steps_of_passed (inside : offset < plan.fileSize)
    (scanned : scan plan offset walk = .ok (.passed next) mid) :
    steps plan (fuel + 1) offset walk = steps plan fuel next mid := by
  have stepped : step plan offset walk = .ok (some next) mid := by
    rw [step_eq_scan, bind_of_ok scanned]
    rfl
  rw [steps, if_neg (Nat.not_le.mpr inside), bind_of_ok stepped]

/-- A bitmap is handled before the walk goes on. -/
theorem steps_of_bitmap (inside : offset < plan.fileSize)
    (scanned : scan plan offset walk = .ok (.bitmap bitmap next) mid) :
    steps plan (fuel + 1) offset walk =
      match handleBitmap plan bitmap mid with
      | .ok true walk' => steps plan fuel next walk'
      | .ok false walk' => .ok () walk'
      | .error err walk' => .error err walk' := by
  rw [steps, if_neg (Nat.not_le.mpr inside), step_eq_scan]
  cases handled : handleBitmap plan bitmap mid with
  | ok more walk' =>
    have stepped : (scan plan offset >>= settle plan) walk
        = .ok (if more then some next else none) walk' := by
      rw [bind_of_ok scanned]
      exact settle_bitmap_of_ok handled
    rw [bind_of_ok stepped]
    cases more <;> rfl
  | error err walk' =>
    have stepped : (scan plan offset >>= settle plan) walk = .error err walk' := by
      rw [bind_of_ok scanned]
      exact bind_of_error handled
    rw [bind_of_error stepped]

variable {records : List PaletteRecord} {handover : Handover σ}

/-- **What a walk hands over**, it does at a bitmap that it comes by: the first one, or
one behind a record that is no bitmap, or behind a bitmap that was handled. -/
theorem mem_handovers_cases (among : handover ∈ handovers plan (fuel + 1) offset records walk) :
    offset < plan.fileSize
      ∧ ((∃ next mid, scan plan offset walk = .ok (.passed next) mid
          ∧ handover
            ∈ handovers plan fuel next (records ++ (paletteAt? plan offset walk).toList) mid)
        ∨ ∃ bitmap next mid, scan plan offset walk = .ok (.bitmap bitmap next) mid
          ∧ bitmapFault? plan.options bitmap = none
          ∧ (handover = ⟨plan, records, bitmap, mid⟩
            ∨ ∃ walk', handleBitmap plan bitmap mid = .ok true walk'
              ∧ handover ∈ handovers plan fuel next [] walk')) := by
  unfold handovers at among
  split at among
  · cases among
  next inside =>
  refine ⟨Nat.lt_of_not_le inside, ?_⟩
  split at among
  · next next mid scanned => exact .inl ⟨next, mid, scanned, among⟩
  · next bitmap next mid scanned =>
    split at among
    · cases among
    next fault =>
    refine .inr ⟨bitmap, next, mid, scanned, Option.not_isSome_iff_eq_none.mp fault, ?_⟩
    obtain here | among := List.mem_cons.mp among
    · exact .inl here
    · split at among
      · next walk' handled => exact .inr ⟨walk', handled, among⟩
      · cases among
  · cases among

variable [LawfulByteSource σ]

/-- **Behind a record that was passed**, what it says of palettes is known too. -/
theorem Since.of_passed (since : Since plan.level records walk)
    (scanned : scan plan offset walk = .ok (.passed next) mid) :
    Since plan.level (records ++ (paletteAt? plan offset walk).toList) mid := by
  obtain ⟨record, found, -, left⟩ | ⟨none, same⟩ := scan_leaves scanned
  · rw [found]
    exact since.append left
  · rw [none]
    exact (List.append_nil records).symm ▸ since.of_same same

/-- To find a bitmap says nothing of palettes. -/
theorem Since.of_bitmap (since : Since plan.level records walk)
    (scanned : scan plan offset walk = .ok (.bitmap bitmap next) mid) :
    Since plan.level records mid := by
  obtain ⟨-, -, -, -, -, -, moved⟩ := scan_bitmap scanned
  exact since.of_same moved.samePalette

/-- **Every bitmap that is handed over** is decoded with what the palette records since
the last one hand over. If it has an error that fails the file, then the walk fails. -/
theorem handovers_spec (decodes : plan.headersOnly = false)
    (since : Since plan.level records walk)
    (among : handover ∈ handovers plan fuel offset records walk) :
    handover.plan = plan ∧ bitmapFault? plan.options handover.bitmap = none
      ∧ Since plan.level handover.palettes handover.walk
      ∧ ∀ err walk', decodeBitmap plan handover.bitmap handover.walk = .error err walk' →
        plan.options.rejects err = true →
          ∃ last, steps plan fuel offset walk = .error (.raster err) last := by
  induction fuel generalizing offset records walk with
  | zero => cases among
  | succ fuel ih =>
    obtain ⟨inside, ⟨next, mid, scanned, among⟩ | ⟨bitmap, next, mid, scanned, fault, among⟩⟩ :=
      mem_handovers_cases among
    · rw [steps_of_passed inside scanned]
      exact ih (since.of_passed scanned) among
    · rw [steps_of_bitmap inside scanned]
      obtain rfl | ⟨walk', handled, among⟩ := among
      · refine ⟨rfl, fault, since.of_bitmap scanned, fun err walk' failed rejects => ⟨walk', ?_⟩⟩
        rw [handleBitmap_of_rejected decodes fault failed rejects]
      · obtain ⟨palette, paletteError⟩ := (handleBitmap_eq_ok.mp handled).2.unloads decodes
        rw [handled]
        exact ih (since_nil palette paletteError) among

/-- **A bitmap is handed over by a walk that has come from there**, over the same file. -/
theorem proceeds_of_mem_handovers (among : handover ∈ handovers plan fuel offset records walk) :
    Proceeds walk handover.walk := by
  induction fuel generalizing offset records walk with
  | zero => cases among
  | succ fuel ih =>
    obtain ⟨-, ⟨next, mid, scanned, among⟩ | ⟨bitmap, next, mid, scanned, -, among⟩⟩ :=
      mem_handovers_cases among
    · exact trans_of Proceeds ((scan_passes plan offset).of_ok scanned).proceeds (ih among)
    · have passed := ((scan_passes plan offset).of_ok scanned).proceeds
      obtain rfl | ⟨walk', handled, among⟩ := among
      · exact passed
      · have proceeds := ((handleBitmap_proceeds plan bitmap).of_ok handled).1
        exact trans_of Proceeds (trans_of Proceeds passed proceeds) (ih among)

/-- **The palette records of a handover** are records of the file. -/
theorem mem_palettes (among : handover ∈ handovers plan fuel offset records walk)
    {record : PaletteRecord} (known : record ∈ handover.palettes) :
    record ∈ records ∨ ∃ here walk', SameFile walk.source walk'.source
      ∧ paletteAt? plan here walk' = some record := by
  induction fuel generalizing offset records walk with
  | zero => cases among
  | succ fuel ih =>
    obtain ⟨-, ⟨next, mid, scanned, among⟩ | ⟨bitmap, next, mid, scanned, -, among⟩⟩ :=
      mem_handovers_cases among
    · have file := ((scan_passes plan offset).of_ok scanned).file
      obtain known | ⟨here, walk', same, found⟩ := ih among
      · obtain old | new := List.mem_append.mp known
        · exact .inl old
        · exact .inr ⟨offset, walk, .refl walk.source, Option.mem_toList.mp new⟩
      · exact .inr ⟨here, walk', file.trans same, found⟩
    · have file := ((scan_passes plan offset).of_ok scanned).file
      obtain rfl | ⟨walk', handled, among⟩ := among
      · exact .inl known
      · obtain known | ⟨here, walk'', same, found⟩ := ih among
        · cases known
        · have proceeds := ((handleBitmap_proceeds plan bitmap).of_ok handled).1
          exact .inr ⟨here, walk'', (file.trans proceeds.file).trans same, found⟩

end

end Walk

namespace Handover

/-- What the palette records hand over with the bitmap. -/
def handed (handover : Handover σ) : Except RasterError Palette :=
  PaletteRecord.handed handover.plan.level handover.palettes

variable [ByteSource σ]

/-- What the bitmap is decoded into: at most one frame. -/
def frames (handover : Handover σ) : List Frame :=
  Walk.framesOf handover.plan handover.bitmap handover.walk

variable {handover : Handover σ}

/-- A frame is what the bitmap is decoded into. -/
theorem exists_of_mem_frames {frame : Frame} (shown : frame ∈ handover.frames) :
    ∃ walk', Walk.decodeBitmap handover.plan handover.bitmap handover.walk = .ok frame walk' := by
  unfold frames Walk.framesOf at shown
  split at shown
  · next walk' made =>
    obtain rfl := List.mem_singleton.mp shown
    exact ⟨walk', made⟩
  · cases shown

variable (since : Walk.Since handover.plan.level handover.palettes handover.walk)

include since

/-- **A fault that is handed over rejects the bitmap.** -/
theorem frames_of_handed_error {err : RasterError} (failed : handover.handed = .error err) :
    Walk.decodeBitmap handover.plan handover.bitmap handover.walk
        = .error err (handover.walk.unload handover.plan.level)
      ∧ handover.frames = [] := by
  have rejected : Walk.decodeBitmap handover.plan handover.bitmap handover.walk
      = .error err (handover.walk.unload handover.plan.level) := by
    rw [since.decodeBitmap_eq]
    unfold handed at failed
    rw [failed]
    rfl
  refine ⟨rejected, ?_⟩
  unfold frames Walk.framesOf
  rw [rejected]

/-- **A frame has the colormap that is made of the palette handed over.** -/
theorem colormap_of_mem_frames {frame : Frame} (shown : frame ∈ handover.frames) :
    ∃ palette, handover.handed = .ok palette
      ∧ Colormap.make handover.plan.level (some palette) handover.bitmap.depth
        = .ok frame.colormap := by
  obtain ⟨walk', made⟩ := exists_of_mem_frames shown
  rw [since.decodeBitmap_eq] at made
  exact Walk.colormap_of_decodeWith made

end Handover

namespace Walk

variable [ByteSource σ] {plan : WalkPlan} {fuel offset next : Nat} {walk mid : Walk σ}

/-- If the walk ends at a record without a bitmap, then no more are handed over. -/
theorem handovers_of_ended (inside : offset < plan.fileSize)
    (scanned : scan plan offset walk = .ok .ended mid) (records : List PaletteRecord) :
    handovers plan (fuel + 1) offset records walk = [] := by
  rw [handovers, if_neg (Nat.not_le.mpr inside), scanned]

theorem handovers_of_passed (inside : offset < plan.fileSize)
    (scanned : scan plan offset walk = .ok (.passed next) mid) (records : List PaletteRecord) :
    handovers plan (fuel + 1) offset records walk
      = handovers plan fuel next (records ++ (paletteAt? plan offset walk).toList) mid := by
  rw [handovers, if_neg (Nat.not_le.mpr inside), scanned]

/-- A bitmap that is handled well was handed over, and maybe others behind it. -/
theorem handovers_of_handled {bitmap : Bitmap} {more : Bool} {walk' : Walk σ}
    (inside : offset < plan.fileSize)
    (scanned : scan plan offset walk = .ok (.bitmap bitmap next) mid)
    (handled : handleBitmap plan bitmap mid = .ok more walk') (records : List PaletteRecord) :
    handovers plan (fuel + 1) offset records walk = ⟨plan, records, bitmap, mid⟩ ::
      if more then handovers plan fuel next [] walk' else [] := by
  rw [handovers, if_neg (Nat.not_le.mpr inside), scanned]
  dsimp only
  rw [(handleBitmap_eq_ok.mp handled).1, if_neg (by nofun), handled]
  cases more <;> rfl

variable [LawfulByteSource σ] {last : Walk σ}

/-- **The frames of a walk** are those of the bitmaps that it hands over. -/
theorem Course.frames_of_handovers {visits : List Visit}
    (course : Course plan fuel offset walk visits last) (decodes : plan.headersOnly = false)
    (records : List PaletteRecord) :
    last.frames.toList = walk.frames.toList
      ++ (handovers plan fuel offset records walk).flatMap Handover.frames := by
  induction course generalizing records with
  | exhausted => exact (List.append_nil _).symm
  | beyond beyond =>
    unfold handovers
    rw [if_pos beyond]
    exact (List.append_nil _).symm
  | @ended fuel offset walk last inside stepped =>
    obtain ⟨mid, scanned, settled⟩ := step_ok stepped
    generalize foundAt plan offset walk = found at scanned settled
    cases found with
    | passed next => cases settled
    | ended =>
      cases settled
      rw [handovers_of_ended inside scanned, ((scan_passes plan offset).of_ok scanned).frames]
      exact (List.append_nil _).symm
    | bitmap bitmap next =>
      obtain ⟨more, handled, ends⟩ := settle_bitmap_ok settled
      cases more with
      | true => cases ends
      | false =>
        rw [handovers_of_handled inside scanned handled, if_neg Bool.false_ne_true,
          List.flatMap_singleton]
        exact (frames_of_handled scanned (handleBitmap_eq_ok.mp handled).2 decodes).2
  | @next fuel offset next walk walk' last later inside stepped _ ih =>
    obtain ⟨mid, scanned, settled⟩ := step_ok stepped
    generalize foundAt plan offset walk = found at scanned settled
    cases found with
    | ended => cases settled
    | passed next =>
      cases settled
      rw [handovers_of_passed inside scanned, ih,
        ((scan_passes plan offset).of_ok scanned).frames]
    | bitmap bitmap next =>
      obtain ⟨more, handled, goesOn⟩ := settle_bitmap_ok settled
      cases more with
      | false => cases goesOn
      | true =>
        cases goesOn
        have added := (frames_of_handled scanned (handleBitmap_eq_ok.mp handled).2 decodes).2
        rw [handovers_of_handled inside scanned handled, if_pos rfl, List.flatMap_cons, ih [],
          added, List.append_assoc]
        rfl

end Walk

/-! ## The handovers of a file -/

namespace Decoder

variable [ByteSource σ]

/-- **The bitmaps that a decoder hands over** while it decodes its file. -/
def handovers (decoder : Decoder σ) (stop : Stop) : List (Handover σ) :=
  match decodeHeaders decoder with
  | .ok () known =>
    match known.plan? false with
    | some plan =>
      Walk.handovers plan (plan.fileSize - plan.start) plan.start []
        (Walk.make plan.level known.source stop)
    | none => []
  | .error _ _ => []

/-- Only a decoder that knows its header and can plan a walk hands bitmaps over. -/
theorem exists_of_mem_handovers {decoder : Decoder σ} {stop : Stop} {handover : Handover σ}
    (among : handover ∈ decoder.handovers stop) :
    ∃ known plan, decodeHeaders decoder = .ok () known ∧ known.plan? false = some plan
      ∧ handover ∈ Walk.handovers plan (plan.fileSize - plan.start) plan.start []
        (Walk.make plan.level known.source stop) := by
  unfold handovers at among
  split at among
  · next known opened =>
    split at among
    · next plan planned => exact ⟨known, plan, opened, planned, among⟩
    · cases among
  · cases among

/-- **The frames of a file** are those of the bitmaps that are handed over. -/
theorem frames_of_handovers [LawfulByteSource σ] {decoder : Decoder σ} {stop : Stop}
    {frames : Array Frame} (decoded : (decoder.decodeWithStop stop).1.1 = .ok frames) :
    frames.toList = (decoder.handovers stop).flatMap Handover.frames := by
  obtain ⟨known, plan, last, opened, planned, run, rfl, -⟩ := exists_of_decodeWithStop_ok decoded
  unfold handovers
  rw [opened]
  dsimp only
  rw [planned]
  exact (Walk.course_of_steps run).frames_of_handovers (headersOnly_of_plan? planned) []

/-- To read the header changes neither the options nor the file. -/
theorem keeps_of_decodeHeaders_ok [LawfulByteSource σ] {decoder known : Decoder σ}
    (opened : decodeHeaders decoder = .ok () known) :
    known.options = decoder.options ∧ SameFile decoder.source known.source := by
  cases decoded : decoder.headersDecoded with
  | true =>
    rw [decodeHeaders_of_decoded decoded] at opened
    cases opened
    exact ⟨rfl, .refl decoder.source⟩
  | false =>
    obtain ⟨-, -, -, file⟩ := foreknows_of_ok decoded opened
    exact ⟨options_of_decodeHeaders_ok decoded opened, file⟩

/-- **What is known of a bitmap that is handed over.** -/
structure HandsOver (decoder : Decoder σ) (stop : Stop) (handover : Handover σ) : Prop where
  /-- It is decoded with the options of the decoder. -/
  options : handover.plan.options = decoder.options
  /-- Nothing is said against it. -/
  sound : Walk.bitmapFault? handover.plan.options handover.bitmap = none
  /-- What is known of palettes is what the records since the one before leave. -/
  since : Walk.Since handover.plan.level handover.palettes handover.walk
  /-- Its raster is read from the file. -/
  file : SameFile decoder.source handover.walk.source
  /-- The stop is that of the caller. -/
  answer : handover.walk.stop.answer = stop.answer

theorem handsOver_of_mem [LawfulByteSource σ] {decoder : Decoder σ} {stop : Stop}
    {handover : Handover σ} (among : handover ∈ decoder.handovers stop) :
    decoder.HandsOver stop handover := by
  obtain ⟨known, plan, opened, planned, among⟩ := exists_of_mem_handovers among
  obtain ⟨options, file⟩ := keeps_of_decodeHeaders_ok opened
  have proceeds := Walk.proceeds_of_mem_handovers among
  obtain ⟨rfl, sound, since, -⟩ :=
    Walk.handovers_spec (headersOnly_of_plan? planned) (Walk.since_nil rfl rfl) among
  exact
    { options := (options_of_plan? planned).trans options
      sound
      since
      file := file.trans proceeds.file
      answer := proceeds.answer }

/-- **A decoder that rejects a bitmap for its palette**: no frame becomes of it, and the
error fails the file if the options say so; otherwise the walk goes on, unless one frame
is enough. -/
structure Rejects (decoder : Decoder σ) (stop : Stop) (handover : Handover σ)
    (err : RasterError) : Prop where
  /-- The fault is handed over. -/
  handed : handover.handed = .error err
  /-- No frame becomes of the bitmap. -/
  frames : handover.frames = []
  /-- An error that is not tolerated fails the file. -/
  fails : decoder.options.rejects err = true →
    (decoder.decodeWithStop stop).1.1 = .error (.raster err)
  /-- Otherwise the bitmap is skipped. -/
  skipped : decoder.options.rejects err = false →
    Walk.handleBitmap handover.plan handover.bitmap handover.walk
      = .ok decoder.options.allFrames (handover.walk.unload handover.plan.level)

/-- **A bitmap is rejected** if a fault is handed over with it. -/
theorem rejects_of_handed [LawfulByteSource σ] {decoder : Decoder σ} {stop : Stop}
    {handover : Handover σ} (among : handover ∈ decoder.handovers stop) {err : RasterError}
    (failed : handover.handed = .error err) : decoder.Rejects stop handover err := by
  have options := (handsOver_of_mem among).options
  obtain ⟨known, _, opened, planned, among⟩ := exists_of_mem_handovers among
  have decodes := headersOnly_of_plan? planned
  obtain ⟨rfl, fault, since, fails⟩ :=
    Walk.handovers_spec decodes (Walk.since_nil rfl rfl) among
  obtain ⟨rejected, without⟩ := Handover.frames_of_handed_error since failed
  refine ⟨failed, without, fun rejects => ?_, fun tolerated => ?_⟩
  · rw [← options] at rejects
    obtain ⟨last, run⟩ := fails err _ rejected rejects
    rw [decodeWithStop_of_ok opened planned, show Walk.run handover.plan _ = _ from run]
  · rw [← options] at tolerated ⊢
    exact Walk.handleBitmap_eq_ok.mpr ⟨fault, .rejected decodes rejected tolerated⟩

/-- **Which palette a bitmap is decoded with.** The frames of a file are those of the
bitmaps that are handed over. What becomes of each depends on the palette records since
the last one, and on these as far as they hand over a palette or a fault: the fault
rejects the bitmap, and of the palette its colormap is made. Without such a record it is
the default one. Otherwise the last record alone decides what is handed over, unless it
is one without entries at level one, and a fault is pending in front of it: then that is
what is handed over. -/
theorem decodeWithStop_handovers [LawfulByteSource σ] (decoder : Decoder σ) (stop : Stop) :
    (∀ frames, (decoder.decodeWithStop stop).1.1 = .ok frames →
        frames.toList = (decoder.handovers stop).flatMap Handover.frames)
      ∧ ∀ handover ∈ decoder.handovers stop,
        let level := handover.plan.level
        Walk.decodeBitmap handover.plan handover.bitmap handover.walk
            = Walk.decodeWith handover.plan handover.bitmap handover.handed handover.walk
          ∧ (∀ err, handover.handed = .error err → decoder.Rejects stop handover err)
          ∧ (∀ frame ∈ handover.frames, ∃ palette, handover.handed = .ok palette
            ∧ Colormap.make level (some palette) handover.bitmap.depth = .ok frame.colormap)
          ∧ (handover.palettes = [] → ∀ frame ∈ handover.frames,
            Colormap.make level none handover.bitmap.depth = .ok frame.colormap)
          ∧ ∀ earlier last, handover.palettes = earlier ++ [last] →
            (handover.handed = PaletteRecord.handed level [last]
              ↔ ¬ (level = .one ∧ last.count = 0
                ∧ (PaletteRecord.pending? level earlier).isSome))
            ∧ (level = .one → last.count = 0 →
              ∀ err, PaletteRecord.pending? level earlier = some err →
                handover.handed = .error err) := by
  refine ⟨fun frames => frames_of_handovers, fun handover among => ?_⟩
  have since := (handsOver_of_mem among).since
  intro level
  refine ⟨since.decodeBitmap_eq handover.bitmap, fun err => rejects_of_handed among,
    fun frame => Handover.colormap_of_mem_frames since, fun none frame shown => ?_,
    fun earlier last palettes => ?_⟩
  · obtain ⟨palette, empty, made⟩ := Handover.colormap_of_mem_frames since shown
    unfold Handover.handed at empty
    rw [none, PaletteRecord.handed_nil] at empty
    cases empty
    exact made
  · unfold Handover.handed
    rw [palettes]
    exact ⟨PaletteRecord.handed_append_iff level earlier last, fun one empty err pending =>
      PaletteRecord.handed_of_pending level one empty pending⟩

set_option maxRecDepth 4000 in
/-- A palette that is loaded replaces one that has no room, and its fault. -/
theorem decodeWithStop_handovers_replaced :
    let decoder : Decoder Cursor := { source := .ofBytes (Bytes.plainHeader
      ++ Bytes.overfullPalette ++ Bytes.colorRecord ++ Bytes.indexedRecord) }
    ∃ handover ∈ decoder.handovers .never, ∃ first last, handover.palettes = [first, last]
      ∧ (first.fault? handover.plan.level).isSome
      ∧ handover.handed = PaletteRecord.handed handover.plan.level [last]
      ∧ handover.frames.length = 1 := by
  intro decoder
  have shape : (decoder.handovers .never).map (fun handover => (handover.palettes.map
      fun record => (record.count, (record.fault? handover.plan.level).isSome),
      handover.frames.length)) = [([(20, true), (4, false)], 1)] := by decide +kernel
  obtain ⟨handover, rest, handovers, shape, -⟩ := List.map_eq_cons_iff.mp shape
  simp only [Prod.mk.injEq] at shape
  obtain ⟨first, records, palettes, overfull, shape'⟩ := List.map_eq_cons_iff.mp shape.1
  obtain ⟨last, records, rfl, colored, shape'⟩ := List.map_eq_cons_iff.mp shape'
  obtain rfl := List.map_eq_nil_iff.mp shape'
  simp only [Prod.mk.injEq] at overfull colored
  have among : handover ∈ decoder.handovers .never := handovers ▸ List.mem_cons_self
  obtain ⟨-, -, -, -, decides⟩ := (decodeWithStop_handovers decoder .never).2 handover among
  refine ⟨handover, among, first, last, palettes, overfull.2, ?_, shape.2⟩
  refine (decides [first] last palettes).1.mpr fun lingers => ?_
  rw [colored.1] at lingers
  exact absurd lingers.2.1 (by decide)

set_option maxRecDepth 4000 in
/-- **A fault that an empty palette leaves pending**: the bitmap behind it is rejected,
although it is decoded if there is nothing in front of the empty palette. -/
theorem decodeWithStop_handovers_pending :
    let pending : Decoder Cursor := { source := .ofBytes (Bytes.plainHeader
      ++ Bytes.overfullPalette ++ Bytes.emptyPalette ++ Bytes.rowRecord) }
    let alone : Decoder Cursor := { source := .ofBytes (Bytes.plainHeader
      ++ Bytes.emptyPalette ++ Bytes.rowRecord) }
    (pending.handovers .never).map (·.palettes.map (·.count)) = [[20, 0]]
      ∧ (alone.handovers .never).map (·.palettes.map (·.count)) = [[0]]
      ∧ (match pending.decode.1 with
        | .ok _ => none
        | .error err => some err) = some .noImageData
      ∧ alone.decode.1.toOption.map Array.size = some 1 := by
  decide +kernel

end Decoder

end WpgRaster
