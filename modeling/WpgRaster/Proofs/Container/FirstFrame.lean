import WpgRaster.Proofs.Container.Limits

/-!
# The first frame alone

A decoder that wants one frame stops at the first bitmap. That may be one that
is rejected, and then nothing is delivered at all, even if there are frames
behind it. So what is delivered is the first frame of the file if the first
bitmap became a frame, and otherwise there is an error
(`Decoder.decode_firstFrame`).
-/

namespace WpgRaster

/-- The options for all frames, or for the first one. -/
def Options.setAllFrames (options : Options) (allFrames : Bool) : Options :=
  { options with allFrames }

variable {σ : Type}

/-! ## How many frames are wanted -/

namespace WalkPlan

/-- The plan for all frames, or for the first one. -/
def setAllFrames (plan : WalkPlan) (allFrames : Bool) : WalkPlan :=
  { plan with options := plan.options.setAllFrames allFrames }

end WalkPlan

namespace Walk

variable [ByteSource σ]

/-- Decoding a bitmap does not depend on how many frames are wanted. -/
theorem Handled.setAllFrames {plan : WalkPlan} {bitmap : Bitmap} {walk walk' : Walk σ} {more : Bool}
    (decodes : plan.headersOnly = false) (handled : Handled plan bitmap walk more walk')
    (allFrames : Bool) : Handled (plan.setAllFrames allFrames) bitmap walk allFrames walk' := by
  cases handled with
  | takenDown header =>
    rw [decodes] at header
    cases header
  | delivered _ decoded => exact .delivered decodes decoded
  | rejected _ decoded tolerated => exact .rejected decodes decoded tolerated

end Walk

namespace Decoder

/-- A decoder of all frames, or of the first one. -/
def setAllFrames (decoder : Decoder σ) (allFrames : Bool) : Decoder σ :=
  { decoder with options := decoder.options.setAllFrames allFrames }

/-! ## What is delivered -/

variable [ByteSource σ] [LawfulByteSource σ]

/-- **A decoder of the first frame delivers the frames of the first bitmap**, at
most one, since its walk ends there. -/
theorem decode_setAllFrames_false {decoder known : Decoder σ} {plan : WalkPlan}
    {front : List Visit} {fuel here next : Nat} {before mid walk' : Walk σ} {bitmap : Bitmap}
    {more : Bool} (unread : decoder.headersDecoded = false)
    (opened : decodeHeaders decoder = .ok () known) (planned : known.plan? false = some plan)
    (way : Walk.WayTo plan (plan.fileSize - plan.start) plan.start
      (Walk.make plan.level known.source .never) front fuel here before bitmap next mid)
    (fault : Walk.bitmapFault? plan.options bitmap = none)
    (handled : Walk.Handled plan bitmap mid more walk') :
    (decoder.setAllFrames false).decode.1
      = delivered (Walk.framesOf plan bitmap mid).toArray := by
  have decodes := headersOnly_of_plan? planned
  have handled' := handled.setAllFrames decodes false
  have stopped : Walk.Course (plan.setAllFrames false) (fuel + 1) here before _ walk' :=
    .of_handled way.inside way.scanned (Walk.handleBitmap_eq_ok.mpr ⟨fault, handled'⟩)
  have run : Walk.run (plan.setAllFrames false) (Walk.make plan.level known.source .never)
      = .ok () walk' :=
    (way.leads (plan.options.setAllFrames false) plan.headersOnly _ _ stopped).steps_eq.1
  have options : plan.options = decoder.options :=
    (options_of_plan? planned).trans (options_of_decodeHeaders_ok unread opened)
  have limits : decoder.options.SameLimits (decoder.options.setAllFrames false) := ⟨rfl, rfl⟩
  have opened' := decodeHeaders_withOptions limits unread opened
  have planned' := plan?_withOptions planned (decoder.options.setAllFrames false)
  rw [← options] at opened' planned'
  have added : walk'.frames.toList = [] ++ Walk.framesOf plan bitmap mid :=
    (way.frames_eq handled decodes).2
  have frames : walk'.frames = (Walk.framesOf plan bitmap mid).toArray :=
    Array.toList_inj.mp (added.trans (List.nil_append _))
  have same : decoder.setAllFrames false
      = decoder.withOptions (plan.options.setAllFrames false) := by
    rw [options]
    rfl
  rw [same, decode_of_run_ok opened' planned' run, frames]

/-- **Decoding the first frame alone.** If decoding all frames goes well, then
there is a first bitmap, and the frames that it became, if any, are all that is
delivered when the first frame alone is wanted. So it is the first one of all
frames if and only if the first bitmap became a frame; otherwise nothing is
delivered. If damage fails the file, then the first bitmap always became one. -/
theorem decode_firstFrame (source : σ) (options : Options) {frames : Array Frame}
    (decoded : (decode ({ source, options := options.setAllFrames true } : Decoder σ)).1
      = .ok frames) :
    let all : Decoder σ := { source, options := options.setAllFrames true }
    let first : Decoder σ := { source, options := options.setAllFrames false }
    ∃ frame, frames[0]? = some frame
      ∧ ∃ visit, all.visits.find? (·.bitmap?.isSome) = some visit
        ∧ (first.decode.1 = .ok #[frame] ↔ visit.frames ≠ [])
        ∧ (visit.frames = [] → first.decode.1 = .error .noImageData)
        ∧ (options.isStrict = true → visit.frames ≠ []) := by
  intro all first
  obtain @⟨known, plan, front, later, fuel, here, next, before, mid, walk', bitmap, more, opened,
    planned, way, fault, handled, visits, frames_eq, -⟩ := comesBy_of_decode_ok decoded
  have decodes := headersOnly_of_plan? planned
  have alone : first.decode.1 = delivered (Walk.framesOf plan bitmap mid).toArray :=
    decode_setAllFrames_false rfl opened planned way fault handled
  have visit_frames := (way.frames_eq handled decodes).1
  have visit_eq := (way.find?_eq walk' later).2
  rw [← visits] at visit_eq
  obtain ⟨frame, one⟩ | ⟨none, err, _, rejected⟩ := Walk.framesOf_cases plan bitmap mid
  · -- the bitmap became a frame
    rw [one] at frames_eq visit_frames alone
    have first_eq : frames[0]? = some frame := by
      rw [← Array.getElem?_toList, frames_eq]
      rfl
    have some : (Walk.visit plan here before walk').frames ≠ [] := by
      rw [visit_frames]
      nofun
    exact ⟨frame, first_eq, _, visit_eq, ⟨fun _ => some, fun _ => alone⟩,
      fun none => absurd none some, fun _ => some⟩
  · -- it was rejected, and there is a later one
    rw [none] at frames_eq visit_frames alone
    obtain ⟨_, _, _, _, _, _, _, some, _⟩ := exists_of_decode_ok decoded
    obtain ⟨frame, rest, all_eq⟩ := List.exists_cons_of_ne_nil some
    have first_eq : frames[0]? = .some frame := by
      rw [← Array.getElem?_toList, all_eq]
      rfl
    have failed : first.decode.1 = .error .noImageData := alone
    refine ⟨frame, first_eq, _, visit_eq, ⟨fun decoded => ?_, fun some => ?_⟩, fun _ => failed,
      fun strict => ?_⟩
    · rw [failed] at decoded
      cases decoded
    · exact absurd visit_frames some
    · -- the error would have failed the file
      have strict' : plan.options.isStrict = true := by
        rw [options_of_plan? planned, options_of_decodeHeaders_ok rfl opened]
        exact strict
      obtain ⟨_, _, decoded'⟩ := handled.exists_frame decodes strict'
      rw [rejected] at decoded'
      cases decoded'

set_option maxRecDepth 4000 in
/-- Of a file with two bitmaps, the frame of the first one is delivered alone. -/
theorem decode_firstFrame_twoRows :
    let source := Cursor.ofBytes (Bytes.oneRow ++ Bytes.rowRecord)
    let options : Options := {}
    ∃ frames, (decode ({ source, options := options.setAllFrames true } : Decoder Cursor)).1
        = .ok frames
      ∧ frames.size = 2 ∧ ∃ frame, frames[0]? = some frame
        ∧ (decode ({ source, options := options.setAllFrames false } : Decoder Cursor)).1
          = .ok #[frame] := by
  intro source options
  let all : Decoder Cursor := { source, options := options.setAllFrames true }
  have two : all.decode.1.toOption.map Array.size = some 2 := by decide +kernel
  have shown : (all.visits.find? (·.bitmap?.isSome)).map (·.frames.length) = some 1 := by
    decide +kernel
  cases decoded : all.decode.1 with
  | error err =>
    rw [decoded] at two
    cases two
  | ok frames =>
    rw [decoded] at two
    obtain ⟨frame, first, visit, found, alone, -⟩ := decode_firstFrame source options decoded
    have found : all.visits.find? (·.bitmap?.isSome) = some visit := found
    rw [found] at shown
    have some : visit.frames ≠ [] := List.ne_nil_of_length_eq_add_one (Option.some.inj shown)
    exact ⟨frames, rfl, Option.some.inj two, frame, first, alone.mpr some⟩

set_option maxRecDepth 4000 in
/-- If the first bitmap is rejected, then all frames can be decoded, but the first
one cannot. -/
theorem decode_firstFrame_rejectedFirst :
    let source := Cursor.ofBytes Bytes.rejectedFirst
    let options : Options := {}
    (decode ({ source, options := options.setAllFrames true } : Decoder Cursor)).1.toOption.map
        Array.size = some 1
      ∧ (match (decode ({ source, options := options.setAllFrames false } : Decoder Cursor)).1 with
        | .ok _ => none
        | .error err => some err) = some .noImageData := by
  decide +kernel

end Decoder

end WpgRaster
