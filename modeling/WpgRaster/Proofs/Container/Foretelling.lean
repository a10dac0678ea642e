import WpgRaster.Proofs.Container.Headers

/-!
# What the header foretells

Two walks are made over a file, one for the header and one to decode it. They
come by the same records up to the first bitmap, where the one takes it down
and ends, and the other one decodes it. So what a decoder knows beforehand is
true of what it then decodes (`Decoder.decodeHeaders_foretells`): without a
bitmap there is nothing to be decoded; if damage fails the file, then the size
and the colour space are those of the first frame; and the embedded files are
the first ones of those that decoding comes by.
-/

namespace WpgRaster

variable {σ : Type} [ByteSource σ] [LawfulByteSource σ]

namespace Walk

variable {plan : WalkPlan} {fuel offset : Nat} {walk : Walk σ} {front : List Visit}
  {fuel' here next : Nat} {before mid : Walk σ} {bitmap : Bitmap}

/-- **A walk for the header ends at the first bitmap** and takes it down. It has
noted the embedded files on the way. -/
theorem WayTo.course_headersOnly
    (way : WayTo plan fuel offset walk front fuel' here before bitmap next mid)
    (fault : bitmapFault? plan.options bitmap = none) :
    ∃ found last, Course { plan with headersOnly := true } fuel offset walk found last
      ∧ last.firstBitmap = some bitmap
      ∧ last.embedded.toList = walk.embedded.toList ++ front.flatMap Visit.embedded := by
  have handled : handleBitmap { plan with headersOnly := true } bitmap mid
      = .ok false { mid with firstBitmap := some bitmap } :=
    handleBitmap_eq_ok.mpr ⟨fault, .takenDown rfl⟩
  have course : Course { plan with headersOnly := true } (fuel' + 1) here before _ _ :=
    .of_handled way.inside way.scanned handled
  obtain ⟨_, _, _, _, _, _, moved⟩ := scan_bitmap way.scanned
  refine ⟨_, _, way.leads plan.options true _ _ course, rfl, ?_⟩
  rw [← way.embedded]
  show mid.embedded.toList = before.embedded.toList
  rw [moved.eq]

/-- **A walk that decodes has one for the header**, which ends at the first
bitmap. -/
theorem Course.exists_headersOnly {fuel offset : Nat} {walk last : Walk σ} {found : List Visit}
    (course : Course plan fuel offset walk found last) :
    ∃ found' last', Course { plan with headersOnly := true } fuel offset walk found' last' := by
  obtain ⟨-, -, -, same⟩ | ⟨front, later, fuel', here, before, bitmap, next, mid, -, way, course⟩ :=
    course.first
  · exact ⟨found, last, same plan.options true⟩
  · obtain ⟨_, _, _, handled, -⟩ := course.of_bitmap way.inside way.scanned
    obtain ⟨found', last', course', -⟩ :=
      way.course_headersOnly (handleBitmap_eq_ok.mp handled).1
    exact ⟨found', last', course'⟩

end Walk

namespace Decoder

/-- **Without a bitmap there is nothing to be decoded.** -/
theorem Foreknows.decode_of_firstBitmap_eq_none {known : Decoder σ} {plan : WalkPlan}
    (foreknows : known.Foreknows plan) (none : known.firstBitmap = none) :
    known.decode.1 = .error .noImageData := by
  have planned := plan?_headersOnly foreknows.planned false
  obtain ⟨last, run, firstBitmap, -⟩ := foreknows.walked
  rw [none] at firstBitmap
  obtain ⟨-, frames, -, same⟩
    | ⟨front, later, fuel', here, before, bitmap, next, mid, -, way, course⟩ :=
    (Walk.course_of_steps run).first
  · have walked : Walk.run { plan with headersOnly := false }
        (Walk.make plan.level known.source .never) = .ok () last :=
      (same plan.options false).steps_eq.1
    rw [decode_of_ok (decodeHeaders_of_decoded foreknows.decoded) planned, walked]
    exact delivered_of_toList_eq_nil (congrArg Array.toList frames)
  · -- a bitmap would have been taken down
    obtain ⟨more, walk', later', handled, -, ends, -⟩ := course.of_bitmap way.inside way.scanned
    obtain ⟨-, handled⟩ := Walk.handleBitmap_eq_ok.mp handled
    obtain ⟨_, _, _, _, rfl⟩ := plan?_eq_some.mp foreknows.planned
    cases handled with
    | takenDown _ =>
      obtain ⟨-, rfl⟩ := ends rfl
      cases firstBitmap
    | delivered decodes _ => cases decodes
    | rejected decodes _ _ => cases decodes

/-- **The header foretells what is decoded**, of every file. If no bitmap is
known once the header was read, then there is nothing to be decoded. If
decoding goes well, then there is a first bitmap, which is the one that was
known; the embedded files that were known are those of the records in front of
it, and decoding finds these and then those of the others. And if damage fails
the file, then the first frame has the size and the colour space that were
known. -/
theorem decodeHeaders_foretells (source : σ) (options : Options) {known : Decoder σ}
    (ran : decodeHeaders ({ source, options } : Decoder σ) = .ok () known) :
    (known.dimensions = none → known.decode.1 = .error .noImageData)
      ∧ ∀ frames, known.decode.1 = .ok frames →
        (options.isStrict = true → ∃ frame, frames[0]? = some frame
          ∧ known.dimensions = some (frame.pixels.width, frame.pixels.height)
          ∧ known.colorSpace = some frame.pixels.colorSpace)
        ∧ ∃ front visit later, known.visits = front ++ visit :: later
          ∧ (∀ passed ∈ front, passed.bitmap? = none)
          ∧ visit.bitmap?.isSome ∧ visit.bitmap? = known.firstBitmap
          ∧ known.embedded.toList = front.flatMap Visit.embedded
          ∧ known.decode.2.embedded.toList
            = known.embedded.toList ++ (visit :: later).flatMap Visit.embedded := by
  obtain ⟨plan, foreknows, rfl, -⟩ := foreknows_of_ok rfl ran
  refine ⟨fun none => ?_, fun frames decoded => ?_⟩
  · unfold dimensions at none
    rw [if_pos foreknows.decoded, Option.map_eq_none_iff] at none
    exact foreknows.decode_of_firstBitmap_eq_none none
  have planned := plan?_headersOnly foreknows.planned false
  obtain @⟨_, _, front, later, _, here, _, before, mid, walk', bitmap, _, opened, planned', way,
    fault, handled, visits, frames_eq, embedded⟩ := comesBy_of_decode_ok decoded
  rw [decodeHeaders_of_decoded foreknows.decoded] at opened
  cases opened
  rw [planned] at planned'
  cases planned'
  -- the walk for the header ended at this bitmap
  obtain ⟨_, taken, course, firstBitmap, noted⟩ := way.course_headersOnly fault
  obtain ⟨last, run, known_firstBitmap, known_embedded⟩ := foreknows.walked
  have same : last = taken := by
    obtain ⟨_, _, _, _, rfl⟩ := plan?_eq_some.mp foreknows.planned
    have run' := course.steps_eq.1
    change Walk.run _ _ = _ at run'
    rw [run] at run'
    exact (EStateM.Result.ok.inj run').2
  rw [same, firstBitmap] at known_firstBitmap
  rw [same] at known_embedded
  have known_embedded : known.embedded.toList = front.flatMap Visit.embedded := by
    rw [known_embedded, noted]
    exact List.nil_append _
  have bitmap? := (way.find?_eq walk' later).1
  refine ⟨fun strict => ?_, front, _, later, visits, way.bitmaps, ?_, ?_, known_embedded, ?_⟩
  · unfold dimensions colorSpace
    rw [if_pos foreknows.decoded, if_pos foreknows.decoded, known_firstBitmap]
    obtain ⟨frame, walk₁, decodes⟩ := handled.exists_frame rfl strict
    obtain ⟨rfl, width, height, space⟩ := Walk.decodeBitmap_ok decodes
    refine ⟨frame, ?_, ?_, space⟩
    · unfold Walk.framesOf at frames_eq
      rw [decodes] at frames_eq
      rw [← Array.getElem?_toList, frames_eq]
      rfl
    · rw [width, height]
      rfl
  · rw [bitmap?]
    rfl
  · rw [bitmap?, known_firstBitmap]
  · rw [embedded, visits, List.flatMap_append, known_embedded]

set_option maxRecDepth 4000 in
/-- The header of a file with a bitmap between two embedded files foretells its
frame and the first of these files. -/
theorem decodeHeaders_foretells_embeddedAround :
    let decoder : Decoder Cursor := { source := .ofBytes Bytes.embeddedAround, options := .strict }
    ∃ known frames frame, decodeHeaders decoder = .ok () known ∧ known.decode.1 = .ok frames
      ∧ frames[0]? = some frame
      ∧ known.dimensions = some (frame.pixels.width, frame.pixels.height)
      ∧ known.colorSpace = some frame.pixels.colorSpace
      ∧ known.embedded.toList <+: known.decode.2.embedded.toList
      ∧ known.embedded.size = 1 ∧ known.decode.2.embedded.size = 2 := by
  intro decoder
  have opens : (match decodeHeaders decoder with
      | .ok _ known => (known.decode.1.toOption.isSome, known.embedded.size,
          known.decode.2.embedded.size)
      | .error _ _ => (false, 0, 0)) = (true, 1, 2) := by decide +kernel
  cases ran : decodeHeaders decoder with
  | error err failed =>
    rw [ran] at opens
    cases opens
  | ok _ known =>
    rw [ran] at opens
    simp only [Prod.mk.injEq] at opens
    cases decoded : known.decode.1 with
    | error err =>
      rw [decoded] at opens
      cases opens.1
    | ok frames =>
      obtain ⟨foretold, _, visit, later, -, -, -, -, -, more⟩ :=
        (decodeHeaders_foretells decoder.source .strict ran).2 frames decoded
      obtain ⟨frame, first, dimensions, colorSpace⟩ := foretold rfl
      exact ⟨known, frames, frame, rfl, decoded, first, dimensions, colorSpace,
        ⟨_, more.symm⟩, opens.2⟩

end Decoder

end WpgRaster
