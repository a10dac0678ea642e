import WpgRaster.Proofs.Container.HeaderBytes
import WpgRaster.Proofs.Container.Visits
import WpgRaster.Proofs.Simulation

/-!
# What a decoder knows of its file

A decoder that has read the header plans its walks by it (`Decoder.plan?`). A
walk for the header finds the first bitmap and the embedded files in front of
it, and these are what the decoder then knows (`Decoder.Foreknows`). To decode
is to walk over the records once more, from the same file
(`Decoder.decode_of_ok`), of which the *visits* are those of the decoder
(`Decoder.visits`).
-/

namespace WpgRaster

namespace Decoder

variable {σ : Type}

/-- **The plan of a walk**, once the header is known. -/
def plan? (decoder : Decoder σ) (headersOnly : Bool) : Option WalkPlan := do
  let header ← decoder.header
  let level ← header.level?
  return {
    options := decoder.options
    level
    start := header.dataOffset.toNat
    fileSize := decoder.fileSize
    headersOnly }

theorem plan?_eq_some {decoder : Decoder σ} {headersOnly : Bool} {plan : WalkPlan} :
    decoder.plan? headersOnly = some plan ↔ ∃ header, decoder.header = some header
      ∧ ∃ level, header.level? = some level
        ∧ plan = ⟨decoder.options, level, header.dataOffset.toNat, decoder.fileSize,
          headersOnly⟩ := by
  unfold plan?
  simp only [Option.bind_eq_bind, Option.bind_eq_some_iff, Option.pure_def, Option.some.injEq,
    eq_comm (a := plan)]

/-- A plan says whether the header alone is wanted. -/
theorem headersOnly_of_plan? {decoder : Decoder σ} {headersOnly : Bool} {plan : WalkPlan}
    (planned : decoder.plan? headersOnly = some plan) : plan.headersOnly = headersOnly := by
  obtain ⟨_, _, _, _, rfl⟩ := plan?_eq_some.mp planned
  rfl

/-- And it says what is accepted. -/
theorem options_of_plan? {decoder : Decoder σ} {headersOnly : Bool} {plan : WalkPlan}
    (planned : decoder.plan? headersOnly = some plan) : plan.options = decoder.options := by
  obtain ⟨_, _, _, _, rfl⟩ := plan?_eq_some.mp planned
  rfl

/-- The plan is the same for the header alone. -/
theorem plan?_headersOnly {decoder : Decoder σ} {headersOnly : Bool} {plan : WalkPlan}
    (planned : decoder.plan? headersOnly = some plan) (headersOnly' : Bool) :
    decoder.plan? headersOnly' = some { plan with headersOnly := headersOnly' } := by
  obtain ⟨header, known, level, levelled, rfl⟩ := plan?_eq_some.mp planned
  exact plan?_eq_some.mpr ⟨header, known, level, levelled, rfl⟩

/-- What a decoder delivers: its frames, of which there has to be one. -/
def delivered (frames : Array Frame) : Except WpgError (Array Frame) :=
  if frames.isEmpty then .error .noImageData else .ok frames

/-- What is delivered are the frames. -/
theorem delivered_eq_ok {frames frames' : Array Frame} :
    delivered frames = .ok frames' ↔ frames' = frames ∧ frames.toList ≠ [] := by
  unfold delivered
  split
  · next none =>
    have none : frames.toList = [] := Array.toList_eq_nil_iff.mpr (Array.isEmpty_iff.mp none)
    exact ⟨nofun, fun same => absurd none same.2⟩
  · next some =>
    have some : frames.toList ≠ [] := fun none =>
      some (Array.isEmpty_iff.mpr (Array.toList_eq_nil_iff.mp none))
    exact ⟨fun same => ⟨(Except.ok.inj same).symm, some⟩, fun same => same.1 ▸ rfl⟩

/-- Nothing is delivered without frames. -/
theorem delivered_of_toList_eq_nil {frames : Array Frame} (none : frames.toList = []) :
    delivered frames = .error .noImageData :=
  if_pos (Array.isEmpty_iff.mpr (Array.toList_eq_nil_iff.mp none))

variable [ByteSource σ]

/-- **A walk follows its plan.** -/
theorem walk_eq {decoder : Decoder σ} {headersOnly : Bool} {plan : WalkPlan}
    (planned : decoder.plan? headersOnly = some plan) (stop : Stop) :
    decoder.walk headersOnly stop =
      match Walk.run plan (Walk.make plan.level decoder.source stop) with
      | .ok () walk => ((.ok walk.frames, walk.stop), decoder.after walk)
      | .error err walk => ((.error err, walk.stop), decoder.after walk) := by
  obtain ⟨header, known, level, levelled, rfl⟩ := plan?_eq_some.mp planned
  unfold walk
  rw [known]
  dsimp only
  split
  · next unlevelled =>
    rw [levelled] at unlevelled
    cases unlevelled
  · next found =>
    rw [levelled] at found
    cases found
    rfl

/-- Without a plan there is no walk. -/
theorem walk_of_plan?_eq_none {decoder : Decoder σ} {headersOnly : Bool}
    (unplanned : decoder.plan? headersOnly = none) (stop : Stop) :
    ∃ err, decoder.walk headersOnly stop = ((.error err, stop), decoder) := by
  unfold walk
  cases known : decoder.header with
  | none => exact ⟨_, rfl⟩
  | some header =>
    cases levelled : header.level? with
    | none =>
      dsimp only
      rw [levelled]
      exact ⟨_, rfl⟩
    | some level =>
      rw [plan?_eq_some.mpr ⟨header, known, level, levelled, rfl⟩] at unplanned
      cases unplanned

/-- A walk that goes well tells the decoder what it found. -/
theorem walk_of_run_ok {decoder : Decoder σ} {headersOnly : Bool} {plan : WalkPlan} {stop : Stop}
    {last : Walk σ} (planned : decoder.plan? headersOnly = some plan)
    (run : Walk.run plan (Walk.make plan.level decoder.source stop) = .ok () last) :
    decoder.walk headersOnly stop = ((.ok last.frames, last.stop), decoder.after last) := by
  rw [walk_eq planned, run]

/-- **A walk that went well** had a plan. -/
theorem exists_of_walk_ok {decoder walked : Decoder σ} {headersOnly : Bool} {stop stop' : Stop}
    {frames : Array Frame}
    (went : decoder.walk headersOnly stop = ((.ok frames, stop'), walked)) :
    ∃ plan last, decoder.plan? headersOnly = some plan
      ∧ Walk.run plan (Walk.make plan.level decoder.source stop) = .ok () last
      ∧ frames = last.frames ∧ stop' = last.stop ∧ walked = decoder.after last := by
  cases planned : decoder.plan? headersOnly with
  | none =>
    obtain ⟨err, failed⟩ := walk_of_plan?_eq_none planned stop
    rw [failed] at went
    cases went
  | some plan =>
    rw [walk_eq planned] at went
    cases run : Walk.run plan (Walk.make plan.level decoder.source stop) with
    | error err last =>
      rw [run] at went
      cases went
    | ok _ last =>
      rw [run] at went
      cases went
      exact ⟨plan, last, rfl, run, rfl, rfl, rfl⟩

/-! ## Reading the header -/

/-- **Decoders between which only the source was moved.** -/
structure Moved (decoder decoder' : Decoder σ) : Prop where
  /-- The file is the same. -/
  file : SameFile decoder.source decoder'.source
  /-- So is everything else. -/
  eq : decoder' = { decoder with source := decoder'.source }

instance : IsPreorder (Decoder σ) Moved where
  refl decoder := ⟨.refl decoder.source, rfl⟩
  trans _ _ _ first second := ⟨first.file.trans second.file, by rw [second.eq, first.eq]⟩

theorem onSource_moved {α : Type} {step : SourceM σ α} (upholds : Upholds SameFile step) :
    Upholds Moved (onSource step) := by
  intro decoder
  have upheld := upholds decoder.source
  unfold onSource
  generalize step decoder.source = result at upheld ⊢
  cases result with
  | ok a source => exact ⟨upheld, rfl⟩
  | error err source => exact ⟨upheld, rfl⟩

variable [LawfulByteSource σ]

theorem readHeader_moved : Upholds Moved (readHeader : EStateM WpgError (Decoder σ) Header) := by
  have rest : ∀ fileId, Upholds SameFile (Header.readRest fileId : SourceM σ Header) := fun _ =>
    ByteSource.nextU32LE_sameFile.bind fun _ => ByteSource.nextU16LE_sameFile.bind fun _ =>
      ByteSource.nextU16LE_sameFile.bind fun _ => ByteSource.next_sameFile.bind fun _ =>
      ByteSource.next_sameFile.bind fun _ => ByteSource.nextU16LE_sameFile.bind fun _ => .pure _
  refine (onSource_moved (LawfulByteSource.seek_sameFile _)).bind fun _ =>
    (onSource_moved ByteSource.nextU32LE_sameFile).bind fun fileId => ?_
  dsimp only
  split
  · refine (onSource_moved (rest fileId)).bind fun header => ?_
    split
    · exact fun decoder => refl_of Moved decoder
    · exact .pure _
  · exact fun decoder => refl_of Moved decoder

omit [ByteSource σ] [LawfulByteSource σ] in
/-- A step that concerns the source does the same to all decoders of it. -/
theorem onSource_simulates {α : Type} (other : Decoder σ) (step : SourceM σ α) :
    Simulates (fun decoder decoder' => decoder' = { other with source := decoder.source })
      (onSource step) (onSource step) := by
  rintro decoder _ rfl
  unfold onSource
  dsimp only
  cases step decoder.source with
  | ok a source => exact .ok rfl
  | error err source => exact .error rfl

omit [LawfulByteSource σ] in
/-- **The header is that of the file**, whatever else a decoder knows. So is what is
wrong with it. -/
theorem readHeader_corresponds {decoder other : Decoder σ}
    (same : SameFile decoder.source other.source) :
    Corresponds (fun mid mid' => mid' = { other with source := mid.source }) (readHeader decoder)
      (readHeader other) := by
  have simulates : Simulates
      (fun decoder decoder' : Decoder σ => decoder' = { other with source := decoder.source })
      readHeader readHeader := by
    refine (onSource_simulates other _).bind fun _ => (onSource_simulates other _).bind
      fun fileId => ?_
    dsimp only
    split
    · refine (onSource_simulates other _).bind fun header => ?_
      split
      · exact fun decoder decoder' related => .error related
      · exact .pure header
    · exact fun decoder decoder' related => .error related
  -- where a source stands before does not matter
  have sought : onSource (ByteSource.seek (.start 0)) other
      = onSource (ByteSource.seek (.start 0)) { other with source := decoder.source } := by
    unfold onSource
    dsimp only
    rw [same.seek_eq]
  have again : readHeader { other with source := decoder.source } = readHeader other :=
    (bind_congr_left sought).symm
  exact again ▸ simulates decoder { other with source := decoder.source } rfl

omit [LawfulByteSource σ] in
theorem readHeader_of_sameFile {decoder other mid : Decoder σ} {header : Header}
    (same : SameFile decoder.source other.source) (read : readHeader decoder = .ok header mid) :
    readHeader other = .ok header { other with source := mid.source } := by
  have results := readHeader_corresponds same
  rw [read] at results
  generalize readHeader other = result at results ⊢
  cases results with
  | ok related => rw [related]

/-! ## Knowing the header -/

/-- **A decoder that knows its header**: it has a plan, and what it knows of
bitmaps and embedded files is what a walk for the header finds. -/
structure Foreknows (decoder : Decoder σ) (plan : WalkPlan) : Prop where
  /-- The header was read. -/
  decoded : decoder.headersDecoded = true
  /-- The plan is made by it. -/
  planned : decoder.plan? true = some plan
  /-- The walk for the header goes well. -/
  walked : ∃ last, Walk.run plan (Walk.make plan.level decoder.source .never) = .ok () last
    ∧ decoder.firstBitmap = last.firstBitmap ∧ decoder.embedded = last.embedded

omit [LawfulByteSource σ] in
/-- A header is read once. -/
theorem decodeHeaders_of_decoded {decoder : Decoder σ} (decoded : decoder.headersDecoded = true) :
    decodeHeaders decoder = .ok () decoder := by
  have here : (get : EStateM WpgError (Decoder σ) (Decoder σ)) decoder = .ok decoder decoder := rfl
  unfold decodeHeaders
  rw [bind_of_ok here, if_pos decoded]
  rfl

/-- A decoder that was told header and size of its file. -/
def told (decoder : Decoder σ) (source : σ) (header : Header) (size : Nat) : Decoder σ :=
  { decoder with source, header := some header, fileSize := min size maxFileSize }

/-- **Reading a header that was not read before**: it is read, the file is
measured, and a walk looks for the first bitmap. -/
theorem decodeHeaders_of_unread {decoder : Decoder σ} (unread : decoder.headersDecoded = false) :
    decodeHeaders decoder =
      match readHeader decoder with
      | .error err failed => .error err failed
      | .ok header mid =>
        match (ByteSource.length mid.source : EStateM.Result SourceError σ Nat) with
        | .error cause source => .error (.source cause) { decoder with source }
        | .ok size source =>
          match (decoder.told source header size).walk true .never with
          | ((.error err, _), failed) => .error err failed
          | ((.ok _, _), walked) => .ok () { walked with headersDecoded := true } := by
  have here : (get : EStateM WpgError (Decoder σ) (Decoder σ)) decoder = .ok decoder decoder := rfl
  have closed : ¬ decoder.headersDecoded = true := by rw [unread]; exact Bool.false_ne_true
  unfold decodeHeaders
  rw [bind_of_ok here, if_neg closed]
  show (readHeader >>= _) _ = _
  cases read : readHeader decoder with
  | error err failed => rw [bind_of_error read]
  | ok header mid =>
    have moved := (readHeader_moved.of_ok read).eq
    rw [bind_of_ok read]
    dsimp only
    cases measured : (ByteSource.length mid.source : EStateM.Result SourceError σ Nat) with
    | error cause source =>
      have length : onSource ByteSource.length mid
          = .error (.source cause) { decoder with source } := by
        unfold onSource
        rw [measured, moved]
      rw [bind_of_error length]
    | ok size source =>
      have length : onSource ByteSource.length mid = .ok size { decoder with source } := by
        unfold onSource
        rw [measured, moved]
      have noted : (modify fun decoder => { decoder with
            fileSize := min size maxFileSize, header := some header } :
            EStateM WpgError (Decoder σ) Unit) { decoder with source }
          = .ok () (decoder.told source header size) := rfl
      rw [bind_of_ok length, bind_of_ok noted]
      dsimp only
      generalize went : (decoder.told source header size).walk true .never = walked
      obtain ⟨⟨result, stop⟩, walked⟩ := walked
      rw [bind_of_ok (modifyGet_of_eq went)]
      cases result <;> rfl

/-- What it took to read a header. -/
theorem exists_of_decodeHeaders_ok {decoder known : Decoder σ}
    (unread : decoder.headersDecoded = false) (ran : decodeHeaders decoder = .ok () known) :
    ∃ header mid size source frames stop walked, readHeader decoder = .ok header mid
      ∧ ByteSource.length mid.source = .ok size source
      ∧ (decoder.told source header size).walk true .never = ((.ok frames, stop), walked)
      ∧ known = { walked with headersDecoded := true } := by
  rw [decodeHeaders_of_unread unread] at ran
  split at ran
  · cases ran
  next header mid read =>
  split at ran
  · cases ran
  next size source measured =>
  split at ran
  · cases ran
  next frames stop walked went =>
  cases ran
  exact ⟨header, mid, size, source, frames, stop, walked, read, measured, went, rfl⟩

/-- That is all it takes. -/
theorem decodeHeaders_of_walk {decoder mid walked : Decoder σ} {header : Header} {size : Nat}
    {source : σ} {frames : Array Frame} {stop : Stop} (unread : decoder.headersDecoded = false)
    (read : readHeader decoder = .ok header mid)
    (measured : ByteSource.length mid.source = .ok size source)
    (went : (decoder.told source header size).walk true .never = ((.ok frames, stop), walked)) :
    decodeHeaders decoder = .ok () { walked with headersDecoded := true } := by
  rw [decodeHeaders_of_unread unread, read]
  dsimp only
  rw [measured]
  dsimp only
  rw [went]

/-- **A decoder that has read its header knows it.** -/
theorem foreknows_of_ok {decoder known : Decoder σ} (unread : decoder.headersDecoded = false)
    (ran : decodeHeaders decoder = .ok () known) :
    ∃ plan, known.Foreknows plan ∧ plan.options = decoder.options
      ∧ SameFile decoder.source known.source := by
  obtain ⟨header, mid, size, source, frames, stop, walked, read, length, went, rfl⟩ :=
    exists_of_decodeHeaders_ok unread ran
  have file : SameFile decoder.source source :=
    (readHeader_moved.of_ok read).file.trans (ByteSource.length_sameFile.of_ok length)
  obtain ⟨plan, last, planned, run, -, -, rfl⟩ := exists_of_walk_ok went
  have proceeds := (Walk.steps_proceeds plan _ plan.start).of_ok run
  -- the walk is taken once more from where it ended
  obtain ⟨source', course⟩ := (Walk.course_of_steps run).withSource proceeds.file
  have options := options_of_plan? planned
  exact ⟨plan, ⟨rfl, planned, last.withSource source', course.steps_eq.1, rfl, rfl⟩, options,
    file.trans proceeds.file⟩

/-! ## Decoding -/

omit [LawfulByteSource σ]

/-- **Decoding with a stop** is a walk over the records. -/
theorem decodeWithStop_of_ok {decoder known : Decoder σ} {plan : WalkPlan}
    (ran : decodeHeaders decoder = .ok () known) (planned : known.plan? false = some plan)
    (stop : Stop) :
    decoder.decodeWithStop stop =
      match Walk.run plan (Walk.make plan.level known.source stop) with
      | .ok () walk => ((delivered walk.frames, walk.stop), known.after walk)
      | .error err walk => ((.error err, walk.stop), known.after walk) := by
  unfold decodeWithStop delivered
  rw [ran]
  dsimp only
  rw [walk_eq planned]
  cases Walk.run plan (Walk.make plan.level known.source stop) with
  | error err walk => rfl
  | ok _ walk =>
    dsimp only
    split <;> rfl

/-- **So is decoding without one.** -/
theorem decode_of_ok {decoder known : Decoder σ} {plan : WalkPlan}
    (ran : decodeHeaders decoder = .ok () known) (planned : known.plan? false = some plan) :
    decoder.decode =
      match Walk.run plan (Walk.make plan.level known.source .never) with
      | .ok () walk => (delivered walk.frames, known.after walk)
      | .error err walk => (.error err, known.after walk) := by
  unfold decode
  rw [decodeWithStop_of_ok ran planned]
  cases Walk.run plan (Walk.make plan.level known.source .never) <;> rfl

/-- If the walk goes well, then its frames are delivered. -/
theorem decode_of_run_ok {decoder known : Decoder σ} {plan : WalkPlan} {last : Walk σ}
    (ran : decodeHeaders decoder = .ok () known) (planned : known.plan? false = some plan)
    (run : Walk.run plan (Walk.make plan.level known.source .never) = .ok () last) :
    decoder.decode = (delivered last.frames, known.after last) := by
  rw [decode_of_ok ran planned, run]

/-- **The visits of a decoder**: those of the walk that decodes the file. -/
def visits (decoder : Decoder σ) : List Visit :=
  match decodeHeaders decoder with
  | .ok () known =>
    match known.plan? false with
    | some plan =>
      Walk.visits plan (plan.fileSize - plan.start) plan.start
        (Walk.make plan.level known.source .never)
    | none => []
  | .error _ _ => []

/-- If the header is read, then the visits are those of a walk by its plan. -/
theorem visits_of_ok {decoder known : Decoder σ} {plan : WalkPlan}
    (ran : decodeHeaders decoder = .ok () known) (planned : known.plan? false = some plan) :
    decoder.visits = Walk.visits plan (plan.fileSize - plan.start) plan.start
      (Walk.make plan.level known.source .never) := by
  unfold visits
  rw [ran]
  dsimp only
  rw [planned]

/-- **The course of a walk by the plan** says what is delivered and what is
visited. -/
theorem decode_of_planned {decoder known : Decoder σ} {plan : WalkPlan} {found : List Visit}
    {last : Walk σ} (ran : decodeHeaders decoder = .ok () known)
    (planned : known.plan? false = some plan)
    (course : Walk.Course plan (plan.fileSize - plan.start) plan.start
      (Walk.make plan.level known.source .never) found last) :
    decoder.decode = (delivered last.frames, known.after last) ∧ decoder.visits = found := by
  obtain ⟨run, visited⟩ := course.steps_eq
  exact ⟨decode_of_run_ok ran planned run, (visits_of_ok ran planned).trans visited⟩

/-- **Decoding that goes well** took a header, and a walk over the records that
delivers the frames. -/
theorem exists_of_decodeWithStop_ok {decoder : Decoder σ} {stop : Stop} {frames : Array Frame}
    (decoded : (decoder.decodeWithStop stop).1.1 = .ok frames) :
    ∃ known plan last, decodeHeaders decoder = .ok () known ∧ known.plan? false = some plan
      ∧ Walk.run plan (Walk.make plan.level known.source stop) = .ok () last
      ∧ last.frames = frames ∧ frames.toList ≠ []
      ∧ (decoder.decodeWithStop stop).2 = known.after last := by
  cases ran : decodeHeaders decoder with
  | error err failed =>
    unfold decodeWithStop at decoded
    rw [ran] at decoded
    cases decoded
  | ok _ known =>
    cases planned : known.plan? false with
    | none =>
      obtain ⟨err, failed⟩ := walk_of_plan?_eq_none planned stop
      unfold decodeWithStop at decoded
      rw [ran] at decoded
      dsimp only at decoded
      rw [failed] at decoded
      cases decoded
    | some plan =>
      rw [decodeWithStop_of_ok ran planned] at decoded ⊢
      cases run : Walk.run plan (Walk.make plan.level known.source stop) with
      | error err last =>
        rw [run] at decoded
        cases decoded
      | ok _ last =>
        rw [run] at decoded
        obtain ⟨rfl, some⟩ := delivered_eq_ok.mp decoded
        exact ⟨known, plan, last, rfl, planned, run, rfl, some, rfl⟩

/-- **A file that was decoded** has a header, and the visits of a walk over its records
deliver the frames. -/
theorem exists_of_decode_ok {decoder : Decoder σ} {frames : Array Frame}
    (decoded : decoder.decode.1 = .ok frames) :
    ∃ known plan last, decodeHeaders decoder = .ok () known ∧ known.plan? false = some plan
      ∧ Walk.Course plan (plan.fileSize - plan.start) plan.start
          (Walk.make plan.level known.source .never) decoder.visits last
      ∧ last.frames = frames ∧ frames.toList ≠ [] ∧ decoder.decode.2 = known.after last := by
  obtain ⟨known, plan, last, ran, planned, run, same, some, left⟩ :=
    exists_of_decodeWithStop_ok decoded
  refine ⟨known, plan, last, ran, planned, ?_, same, some, left⟩
  rw [visits_of_ok ran planned]
  exact Walk.course_of_steps run

/-- **What a decoder comes by first**: a bitmap, at the end of a way without
any, which is handled in one of the possible ways. Its frames are the first ones
of the file. -/
inductive ComesBy (decoder : Decoder σ) (frames : Array Frame) : Prop
  /-- The visits on the way, the one of the bitmap, and the later ones. -/
  | bitmap {known : Decoder σ} {plan : WalkPlan} {front later : List Visit} {fuel here next : Nat}
    {before mid walk' : Walk σ} {bitmap : Bitmap} {more : Bool} :
    decodeHeaders decoder = .ok () known → known.plan? false = some plan →
    Walk.WayTo plan (plan.fileSize - plan.start) plan.start
      (Walk.make plan.level known.source .never) front fuel here before bitmap next mid →
    Walk.bitmapFault? plan.options bitmap = none → Walk.Handled plan bitmap mid more walk' →
    decoder.visits = front ++ Walk.visit plan here before walk' :: later →
    frames.toList = Walk.framesOf plan bitmap mid ++ later.flatMap Visit.frames →
    decoder.decode.2.embedded.toList = decoder.visits.flatMap Visit.embedded →
    ComesBy decoder frames

/-- **Every file that is decoded has a first bitmap.** -/
theorem comesBy_of_decode_ok [LawfulByteSource σ] {decoder : Decoder σ} {frames : Array Frame}
    (decoded : decoder.decode.1 = .ok frames) : decoder.ComesBy frames := by
  obtain ⟨known, plan, last, opened, planned, course, rfl, some, left⟩ :=
    exists_of_decode_ok decoded
  have decodes := headersOnly_of_plan? planned
  have adds := course.adds
  have embedded : decoder.decode.2.embedded.toList = decoder.visits.flatMap Visit.embedded := by
    rw [left]
    exact adds.2
  obtain ⟨-, frames, -, -⟩
    | ⟨front, found, fuel, here, before, bitmap, next, mid, split, way, course'⟩ :=
    course.first
  · exact absurd (congrArg Array.toList frames) some
  · obtain ⟨more, walk', later, handled, rfl, ends, goesOn⟩ :=
      course'.of_bitmap way.inside way.scanned
    obtain ⟨fault, handled⟩ := Walk.handleBitmap_eq_ok.mp handled
    refine .bitmap opened planned way fault handled split ?_ embedded
    have first := (way.frames_eq handled decodes).2
    change walk'.frames.toList = [] ++ _ at first
    rw [List.nil_append] at first
    rw [← first]
    cases more with
    | true => exact (goesOn rfl).adds.1
    | false =>
      obtain ⟨rfl, rfl⟩ := ends rfl
      exact (List.append_nil _).symm

end Decoder

/-! ## Small files -/

/-- The images that were delivered, scaled down to eight bits. -/
def imagesOf : Except WpgError (Array Frame) → List (List UInt8)
  | .ok frames => frames.toList.map fun frame => frame.pixels.toBytes.toList
  | .error _ => []

namespace Bytes

/-- The header of a file of level one whose records follow at once. -/
def plainHeader : Bytes := #[0xFF, 0x57, 0x50, 0x43, 16, 0, 0, 0, 1, 0x16, 1, 0, 1, 0, 0, 0]

/-- A bitmap of one row, which has eight pixels of a bit each. -/
def rowRecord : Bytes := #[0x0B, 12, 8, 0, 1, 0, 1, 0, 0, 0, 0, 0, 1, 0]

/-- A palette of twenty colours from 250 on, which has no room. -/
def overfullPalette : Bytes := #[0x0E, 4, 250, 0, 20, 0]

/-- A palette without colours. -/
def emptyPalette : Bytes := #[0x0E, 4, 0, 0, 0, 0]

/-- A record with an embedded file of a byte. -/
def embeddedRecord : Bytes := #[0x11, 9, 0, 0, 0, 0, 0, 0, 0, 0, 0xAA]

/-- A file with a bitmap alone. -/
def oneRow : Bytes := plainHeader ++ rowRecord

/-- A file with a bitmap between two embedded files. -/
def embeddedAround : Bytes := plainHeader ++ embeddedRecord ++ rowRecord ++ embeddedRecord

/-- A file with two bitmaps, the first of which is rejected for its palette. -/
def rejectedFirst : Bytes := plainHeader ++ overfullPalette ++ rowRecord ++ rowRecord

/-- A palette of red, green, blue and white. -/
def colorRecord : Bytes :=
  #[0x0E, 16, 0, 0, 4, 0, 255, 0, 0, 0, 255, 0, 0, 0, 255, 255, 255, 255]

/-- A bitmap of four pixels, one of each of four colours. -/
def indexedRecord : Bytes := #[0x0B, 12, 4, 0, 1, 0, 2, 0, 0, 0, 0, 0, 1, 0x1B]

/-- A file with a palette and a bitmap. -/
def coloredRow : Bytes := plainHeader ++ colorRecord ++ indexedRecord

end Bytes

end WpgRaster
