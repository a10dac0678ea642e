import WpgRaster.Proofs.Container.Limits

/-!
# Strict decoders

A decoder that rejects damage and one that tolerates it take the same way as
long as every bitmap becomes a frame and every frame is complete: what else the
options say, and what is read, is the same for both. At the first bitmap of
which this is not true, the strict decoder fails. So it decodes exactly the
files that are decoded without a loss by the other one, and delivers the same
frames (`Decoder.decode_strict`).
-/

namespace WpgRaster

variable {options : Options}

/-- A strict decoder keeps what is complete, and nothing else. -/
theorem FrameStatus.ofResult_strict {result : Except RasterError Outcome} {status : FrameStatus} :
    ofResult (options.setStrict true) result = .ok status
      ↔ ofResult (options.setStrict false) result = .ok status ∧ status = .complete := by
  cases result with
  | ok outcome =>
    cases outcome with
    | complete => exact ⟨fun same => ⟨same, (Except.ok.inj same).symm⟩, And.left⟩
    | truncated rowsDecoded =>
      have kept : ofResult (options.setStrict false) (.ok (.truncated rowsDecoded))
          = .ok (.truncated rowsDecoded) := rfl
      refine ⟨nofun, fun ⟨same, whole⟩ => ?_⟩
      rw [kept, whole] at same
      cases same
  | error err =>
    have fails : ofResult (options.setStrict true) (.error err) = .error err := by
      show (if (err.abortsFrame && !true) = true then _ else _) = _
      rw [Bool.not_true, Bool.and_false, if_neg Bool.false_ne_true]
    refine ⟨fun same => ?_, fun ⟨same, whole⟩ => ?_⟩
    · rw [fails] at same
      cases same
    · unfold ofResult at same
      dsimp only at same
      subst whole
      split at same
      · cases same
      · cases same

/-- Nothing is tolerated by a strict decoder. -/
theorem Options.rejects_strict (err : RasterError) :
    (options.setStrict true).rejects err = true := rejects_of_isStrict rfl err

/-- **A sound visit**: if it was of a bitmap, then this became a frame, and the
frame is complete. -/
structure Visit.Sound (visit : Visit) : Prop where
  /-- No bitmap is lost. -/
  kept : visit.bitmap?.isSome = true → visit.frames ≠ []
  /-- No frame is damaged. -/
  complete : ∀ frame ∈ visit.frames, frame.status = .complete

variable {σ : Type}

/-- The plan of a strict walk, or of one that tolerates damage. -/
def WalkPlan.setStrict (plan : WalkPlan) (strict : Bool) : WalkPlan :=
  { plan with options := plan.options.setStrict strict }

namespace Walk

variable [ByteSource σ] {plan : WalkPlan} {bitmap : Bitmap} {walk walk' : Walk σ}

/-- **The frame of a bitmap** is the same for a strict walk, if it is complete. -/
theorem decodeBitmap_strict {frame : Frame} :
    decodeBitmap (plan.setStrict true) bitmap walk = .ok frame walk'
      ↔ decodeBitmap (plan.setStrict false) bitmap walk = .ok frame walk'
        ∧ frame.status = .complete := by
  have level : ∀ strict, (plan.setStrict strict).level = plan.level := fun _ => rfl
  have lenient : ∀ strict, (plan.setStrict strict).options = plan.options.setStrict strict :=
    fun _ => rfl
  rw [decodeBitmap_eq, decodeBitmap_eq, level, level, lenient, lenient]
  cases walk.paletteError with
  | some err => exact ⟨nofun, nofun⟩
  | none =>
    cases bitmap.prepare plan.level walk.palette with
    | error err => exact ⟨nofun, nofun⟩
    | ok prepared =>
      obtain ⟨colormap, blank⟩ := prepared
      dsimp only
      generalize (bitmap.format colormap).decode walk.source blank walk.stop = decoded
      constructor
      · intro kept
        split at kept
        · cases kept
        · next status found =>
          cases kept
          obtain ⟨found', whole⟩ := FrameStatus.ofResult_strict.mp found
          rw [found']
          exact ⟨rfl, whole⟩
      · rintro ⟨kept, whole⟩
        split at kept
        · cases kept
        · next status found =>
          cases kept
          rw [FrameStatus.ofResult_strict.mpr ⟨found, whole⟩]

/-- **Handling a bitmap** strictly is to handle it without a loss. -/
theorem handled_strict {more : Bool} (decodes : plan.headersOnly = false) :
    Handled (plan.setStrict true) bitmap walk more walk'
      ↔ Handled (plan.setStrict false) bitmap walk more walk'
        ∧ ∃ frame, framesOf (plan.setStrict false) bitmap walk = [frame]
          ∧ frame.status = .complete := by
  have decodes' : ∀ strict, (plan.setStrict strict).headersOnly = false := fun _ => decodes
  constructor
  · intro handled
    cases handled with
    | takenDown header => cases decodes.symm.trans header
    | @delivered frame walk₁ _ decoded =>
      obtain ⟨decoded, whole⟩ := decodeBitmap_strict.mp decoded
      refine ⟨.delivered (decodes' false) decoded, frame, ?_, whole⟩
      unfold framesOf
      rw [decoded]
    | rejected _ _ tolerated => cases (Options.rejects_strict _).symm.trans tolerated
  · rintro ⟨handled, frame, one, whole⟩
    cases handled with
    | takenDown header => cases decodes.symm.trans header
    | delivered _ decoded =>
      unfold framesOf at one
      rw [decoded] at one
      cases one
      exact .delivered (decodes' true) (decodeBitmap_strict.mpr ⟨decoded, whole⟩)
    | rejected _ decoded _ =>
      unfold framesOf at one
      rw [decoded] at one
      cases one

/-- Settling a bitmap strictly is to settle it without a loss. -/
theorem settle_strict {next : Nat} {next? : Option Nat} (decodes : plan.headersOnly = false) :
    settle (plan.setStrict true) (.bitmap bitmap next) walk = .ok next? walk'
      ↔ settle (plan.setStrict false) (.bitmap bitmap next) walk = .ok next? walk'
        ∧ ∃ frame, framesOf (plan.setStrict false) bitmap walk = [frame]
          ∧ frame.status = .complete := by
  have fault : bitmapFault? (plan.setStrict true).options bitmap
      = bitmapFault? (plan.setStrict false).options bitmap := rfl
  constructor
  · intro settled
    obtain ⟨more, handled, rfl⟩ := settle_bitmap_ok settled
    obtain ⟨sound, handled⟩ := handleBitmap_eq_ok.mp handled
    obtain ⟨handled, whole⟩ := (handled_strict decodes).mp handled
    exact ⟨settle_bitmap_of_ok (handleBitmap_eq_ok.mpr ⟨fault ▸ sound, handled⟩), whole⟩
  · rintro ⟨settled, whole⟩
    obtain ⟨more, handled, rfl⟩ := settle_bitmap_ok settled
    obtain ⟨sound, handled⟩ := handleBitmap_eq_ok.mp handled
    have handled := (handled_strict decodes).mpr ⟨handled, whole⟩
    exact settle_bitmap_of_ok (handleBitmap_eq_ok.mpr ⟨fault ▸ sound, handled⟩)

variable [LawfulByteSource σ] {offset fuel : Nat} {next? : Option Nat} {last : Walk σ}
  {found : List Visit}

/-- A visit of a bitmap is sound if its one frame is there and is complete. -/
theorem visit_sound_iff {next : Nat} {mid : Walk σ} (decodes : plan.headersOnly = false)
    (scanned : scan plan offset walk = .ok (.bitmap bitmap next) mid)
    (settled : settle plan (.bitmap bitmap next) mid = .ok next? walk') :
    (visit plan offset walk walk').Sound
      ↔ ∃ frame, framesOf plan bitmap mid = [frame] ∧ frame.status = .complete := by
  obtain ⟨more, handled, -⟩ := settle_bitmap_ok settled
  obtain ⟨-, handled⟩ := handleBitmap_eq_ok.mp handled
  have frames := (frames_of_handled scanned handled decodes).1
  have isBitmap : (visit plan offset walk walk').bitmap?.isSome = true := by
    show (foundAt plan offset walk).bitmap?.isSome = true
    rw [foundAt_of_scan scanned]
    rfl
  constructor
  · rintro ⟨kept, complete⟩
    rw [frames] at kept complete
    obtain ⟨frame, one⟩ | ⟨none, -⟩ := framesOf_cases plan bitmap mid
    · exact ⟨frame, one, complete frame (one ▸ List.mem_singleton.mpr rfl)⟩
    · exact absurd none (kept isBitmap)
  · rintro ⟨frame, one, whole⟩
    rw [one] at frames
    refine ⟨fun _ => frames ▸ List.cons_ne_nil _ _, fun frame' among => ?_⟩
    rw [frames] at among
    rw [List.mem_singleton.mp among, whole]

/-- A visit of anything else is sound. -/
theorem visit_sound_of_none {here : Found} (scanned : scan plan offset walk = .ok here walk')
    (none : here.bitmap? = none) : (visit plan offset walk walk').Sound := by
  have frames : (visit plan offset walk walk').frames = [] := by
    show walk'.frames.toList.drop walk.frames.size = []
    rw [((scan_passes plan offset).of_ok scanned).frames, ← Array.length_toList, List.drop_length]
  have nothing : (visit plan offset walk walk').bitmap? = .none := by
    show (foundAt plan offset walk).bitmap? = .none
    rw [foundAt_of_scan scanned, none]
  refine ⟨fun isBitmap => ?_, fun frame among => ?_⟩
  · rw [nothing] at isBitmap
    cases isBitmap
  · rw [frames] at among
    cases among

/-- **A strict step** is one whose visit is sound. -/
theorem step_strict (decodes : plan.headersOnly = false) :
    step (plan.setStrict true) offset walk = .ok next? walk'
      ↔ step (plan.setStrict false) offset walk = .ok next? walk'
        ∧ (visit plan offset walk walk').Sound := by
  rw [step_eq_scan, step_eq_scan]
  -- what is found does not depend on the options
  have scans : ∀ strict, (scan (plan.setStrict strict) offset : WalkM σ Found)
      = scan plan offset := fun _ => rfl
  rw [scans, scans]
  cases scanned : scan plan offset walk with
  | error err failed =>
    rw [bind_of_error scanned, bind_of_error scanned]
    exact ⟨nofun, nofun⟩
  | ok found mid =>
    rw [bind_of_ok scanned, bind_of_ok scanned]
    cases bitmap? : found.bitmap? with
    | none =>
      rw [settle_of_bitmap?_eq_none _ bitmap?, settle_of_bitmap?_eq_none _ bitmap?]
      refine ⟨fun settled => ⟨settled, ?_⟩, And.left⟩
      obtain rfl := (EStateM.Result.ok.inj settled).2
      exact visit_sound_of_none scanned bitmap?
    | some bitmap =>
      cases found with
      | bitmap described next =>
        have decodes' : (plan.setStrict false).headersOnly = false := decodes
        rw [settle_strict decodes]
        exact and_congr_right fun settled => (visit_sound_iff decodes' scanned settled).symm
      | _ => cases bitmap?

/-- **A strict walk** is one whose visits are sound. -/
theorem course_strict (decodes : plan.headersOnly = false) :
    Course (plan.setStrict true) fuel offset walk found last
      ↔ Course (plan.setStrict false) fuel offset walk found last
        ∧ ∀ visit ∈ found, visit.Sound := by
  constructor
  · intro course
    induction course with
    | exhausted => exact ⟨.exhausted, nofun⟩
    | beyond beyond => exact ⟨.beyond beyond, nofun⟩
    | ended inside stepped =>
      obtain ⟨stepped, sound⟩ := (step_strict decodes).mp stepped
      refine ⟨.ended inside stepped, fun visit among => ?_⟩
      rw [List.mem_singleton.mp among]
      exact sound
    | next inside stepped _ ih =>
      obtain ⟨stepped, sound⟩ := (step_strict decodes).mp stepped
      exact ⟨.next inside stepped ih.1, List.forall_mem_cons.mpr ⟨sound, ih.2⟩⟩
  · rintro ⟨course, sound⟩
    induction course with
    | exhausted => exact .exhausted
    | beyond beyond => exact .beyond beyond
    | ended inside stepped =>
      exact .ended inside
        ((step_strict decodes).mpr ⟨stepped, sound _ (List.mem_singleton.mpr rfl)⟩)
    | next inside stepped _ ih =>
      obtain ⟨sound, later⟩ := List.forall_mem_cons.mp sound
      exact .next inside ((step_strict decodes).mpr ⟨stepped, sound⟩) (ih later)

end Walk

namespace Decoder

variable [ByteSource σ] [LawfulByteSource σ]

/-- **What it takes to decode a file in the other mode**: a course of a walk by the
same plan. -/
theorem exists_setStrict_of_decode_ok {source : σ} {options : Options} {frames : Array Frame}
    {strict : Bool}
    (decoded : (decode ({ source, options := options.setStrict strict } : Decoder σ)).1
      = .ok frames) (strict' : Bool) :
    ∃ (plan : WalkPlan) (walk last : Walk σ), plan.headersOnly = false ∧ walk.frames = #[]
      ∧ Walk.Course (plan.setStrict strict) (plan.fileSize - plan.start) plan.start walk
        (visits { source, options := options.setStrict strict }) last
      ∧ last.frames = frames ∧ frames.toList ≠ []
      ∧ ∀ {found last'}, Walk.Course (plan.setStrict strict') (plan.fileSize - plan.start)
          plan.start walk found last' →
        (decode ({ source, options := options.setStrict strict' } : Decoder σ)).1
            = delivered last'.frames
          ∧ visits ({ source, options := options.setStrict strict' } : Decoder σ) = found := by
  obtain ⟨known, plan, last, opened, planned, course, frames_eq, some, -⟩ :=
    exists_of_decode_ok decoded
  have same : plan.options = options.setStrict strict :=
    (options_of_plan? planned).trans (options_of_decodeHeaders_ok rfl opened)
  have this : plan.setStrict strict = plan := by
    unfold WalkPlan.setStrict
    rw [same]
    exact same ▸ rfl
  have other : plan.setStrict strict' = { plan with options := options.setStrict strict' } := by
    unfold WalkPlan.setStrict
    rw [same]
    rfl
  have limits : (options.setStrict strict).SameLimits (options.setStrict strict') := ⟨rfl, rfl⟩
  refine ⟨plan, _, last, headersOnly_of_plan? planned, rfl, this.symm ▸ course, frames_eq, some,
    fun course' => ?_⟩
  rw [other] at course'
  obtain ⟨delivers, visited⟩ := decode_of_planned (decodeHeaders_withOptions limits rfl opened)
    (plan?_withOptions planned _) course'
  exact ⟨congrArg Prod.fst delivers, visited⟩

/-- **Strict decoding.** A strict decoder decodes a file exactly if one that
tolerates damage decodes it without a loss: every frame is complete, and no
bitmap that it came by was rejected, be it for its palette, for its depth or for
anything else. The frames are then the same. The limits are the same for both,
but arbitrary. -/
theorem decode_strict (source : σ) (options : Options) (frames : Array Frame) :
    let strict : Decoder σ := { source, options := options.setStrict true }
    let lenient : Decoder σ := { source, options := options.setStrict false }
    strict.decode.1 = .ok frames ↔ lenient.decode.1 = .ok frames
      ∧ (∀ frame ∈ frames, frame.status = .complete)
      ∧ ∀ visit ∈ lenient.visits, visit.bitmap?.isSome = true → visit.frames ≠ [] := by
  intro strict lenient
  constructor
  · intro decoded
    obtain ⟨plan, walk, last, decodes, none, course, rfl, some, other⟩ :=
      exists_setStrict_of_decode_ok decoded false
    obtain ⟨course', sound⟩ := (Walk.course_strict decodes).mp course
    obtain ⟨delivers, visited⟩ := other course'
    have adds := course'.adds.1
    rw [none, List.nil_append] at adds
    refine ⟨delivers.trans (delivered_eq_ok.mpr ⟨rfl, some⟩), fun frame among => ?_, ?_⟩
    · rw [← Array.mem_toList_iff, adds] at among
      obtain ⟨visit, visited, among⟩ := List.mem_flatMap.mp among
      exact (sound visit visited).complete frame among
    · rw [visited]
      exact fun visit among => (sound visit among).kept
  · rintro ⟨decoded, complete, kept⟩
    obtain ⟨plan, walk, last, decodes, none, course, rfl, some, other⟩ :=
      exists_setStrict_of_decode_ok decoded true
    have adds := course.adds.1
    rw [none, List.nil_append] at adds
    have sound : ∀ visit ∈ lenient.visits, visit.Sound := by
      refine fun visit among => ⟨kept visit among, fun frame delivered => complete frame ?_⟩
      rw [← Array.mem_toList_iff, adds]
      exact List.mem_flatMap.mpr ⟨visit, among, delivered⟩
    have course' := (Walk.course_strict decodes).mpr ⟨course, sound⟩
    exact (other course').1.trans (delivered_eq_ok.mpr ⟨rfl, some⟩)

set_option maxRecDepth 4000 in
/-- A sound file is decoded by both. One whose first bitmap is rejected is not,
although the frame that is left is complete. -/
theorem decode_strict_twoFiles :
    let safe (bytes : Bytes) : Decoder Cursor := { source := .ofBytes bytes, options := .safe }
    let strict (bytes : Bytes) : Decoder Cursor := { source := .ofBytes bytes, options := .strict }
    (∃ frames, frames.size = 2 ∧ (strict (Bytes.oneRow ++ Bytes.rowRecord)).decode.1 = .ok frames)
      ∧ ∃ frames, frames.map Frame.isComplete = #[true]
        ∧ (safe Bytes.rejectedFirst).decode.1 = .ok frames
        ∧ (strict Bytes.rejectedFirst).decode.1 ≠ .ok frames := by
  intro safe strict
  constructor
  · have two : (safe (Bytes.oneRow ++ Bytes.rowRecord)).decode.1.toOption.map
        (Array.map Frame.status) = some #[.complete, .complete] := by decide +kernel
    have kept : ∀ visit ∈ (safe (Bytes.oneRow ++ Bytes.rowRecord)).visits,
        visit.bitmap?.isSome = true → visit.frames ≠ [] := by decide +kernel
    cases decoded : (safe (Bytes.oneRow ++ Bytes.rowRecord)).decode.1 with
    | error err =>
      rw [decoded] at two
      cases two
    | ok frames =>
      rw [decoded] at two
      have statuses : frames.map Frame.status = #[.complete, .complete] := Option.some.inj two
      have size : frames.size = 2 := by
        rw [← Array.size_map, statuses]
        rfl
      refine ⟨frames, size, (decode_strict _ .safe frames).mpr ⟨decoded, fun frame among => ?_,
        kept⟩⟩
      have among := Array.mem_map_of_mem (f := Frame.status) among
      rw [statuses] at among
      simpa using among
  · have one : (safe Bytes.rejectedFirst).decode.1.toOption.map (Array.map Frame.isComplete)
        = some #[true] := by decide +kernel
    have lost : ∃ visit ∈ (safe Bytes.rejectedFirst).visits,
        visit.bitmap?.isSome = true ∧ visit.frames = [] := by decide +kernel
    cases decoded : (safe Bytes.rejectedFirst).decode.1 with
    | error err =>
      rw [decoded] at one
      cases one
    | ok frames =>
      rw [decoded] at one
      refine ⟨frames, Option.some.inj one, rfl, fun same => ?_⟩
      obtain ⟨-, -, kept⟩ := (decode_strict _ .safe frames).mp same
      obtain ⟨visit, among, isBitmap, none⟩ := lost
      exact kept visit among isBitmap none

end Decoder

end WpgRaster
