import WpgRaster.Proofs.Container.Calls

/-!
# Decoding once more

A decoder is left behind by every call in another state: its source is somewhere else
in the file, and the bitmap and the embedded files that it knows are those of the last
walk. None of this matters to a further decode (`Decoder.decode_performAll`). Before a
header is read, all that counts is the file and the options (`Decoder.Unopened`), and
afterwards the header and the size of the file count as well
(`Decoder.SameKnowledge`).
-/

namespace WpgRaster

variable {σ : Type} [ByteSource σ]

namespace Walk

/-- **A walk finds the same** from wherever in the file its source comes. -/
theorem steps_withSource (plan : WalkPlan) (fuel offset : Nat) {walk : Walk σ} {source : σ}
    (same : SameFile walk.source source) :
    Corresponds (fun last last' => last' = last.withSource last'.source)
      (steps plan fuel offset walk) (steps plan fuel offset (walk.withSource source)) := by
  cases fuel with
  | zero => exact .ok rfl
  | succ fuel =>
    unfold steps
    by_cases beyond : plan.fileSize ≤ offset
    · rw [if_pos beyond]
      exact .ok rfl
    · -- the first step seeks, and behind it the walks are the same
      rw [if_neg beyond, bind_congr_left (step_withSource plan offset same)]
      generalize (step plan offset >>= _ : WalkM σ Unit) walk = result
      cases result with
      | ok _ last => exact .ok rfl
      | error err last => exact .error rfl

end Walk

namespace Decoder

/-! ## Decoders that know their header -/

namespace SameKnowledge

variable {decoder other : Decoder σ}

/-- They plan the same walks. -/
theorem plan?_eq (same : SameKnowledge decoder other) (headersOnly : Bool) :
    other.plan? headersOnly = decoder.plan? headersOnly := by
  unfold plan?
  rw [same.header, same.options, same.fileSize]

/-- Without a plan they fail alike. -/
theorem walk_of_unplanned (same : SameKnowledge decoder other) {headersOnly : Bool}
    (unplanned : decoder.plan? headersOnly = none) (stop : Stop) :
    ∃ err, decoder.walk headersOnly stop = ((.error err, stop), decoder)
      ∧ other.walk headersOnly stop = ((.error err, stop), other) := by
  unfold walk
  rw [same.header]
  cases known : decoder.header with
  | none => exact ⟨_, rfl, rfl⟩
  | some header =>
    cases levelled : header.level? with
    | none =>
      dsimp only
      rw [levelled]
      exact ⟨_, rfl, rfl⟩
    | some level =>
      rw [plan?_eq_some.mpr ⟨header, known, level, levelled, rfl⟩] at unplanned
      cases unplanned

/-- **They find the same** when they walk. -/
theorem walk_eq (same : SameKnowledge decoder other) {headersOnly : Bool} {plan : WalkPlan}
    (planned : decoder.plan? headersOnly = some plan) (stop : Stop) :
    (other.walk headersOnly stop).1 = (decoder.walk headersOnly stop).1
      ∧ (other.walk headersOnly stop).2.embedded = (decoder.walk headersOnly stop).2.embedded := by
  have file : SameFile (Walk.make plan.level decoder.source stop).source other.source := same.file
  have results := Walk.steps_withSource plan (plan.fileSize - plan.start) plan.start file
  rw [Decoder.walk_eq planned, Decoder.walk_eq ((same.plan?_eq headersOnly).trans planned)]
  change Corresponds _ (Walk.run plan (Walk.make plan.level decoder.source stop))
    (Walk.run plan (Walk.make plan.level other.source stop)) at results
  generalize Walk.run plan (Walk.make plan.level decoder.source stop) = result,
    Walk.run plan (Walk.make plan.level other.source stop) = result' at results
  cases results with
  | ok related =>
    rw [related]
    exact ⟨rfl, rfl⟩
  | error related =>
    rw [related]
    exact ⟨rfl, rfl⟩

end SameKnowledge

/-- **Decoding is a walk**, once the header is known. -/
theorem decodeWithStop_eq_walk {decoder known : Decoder σ}
    (ran : decodeHeaders decoder = .ok () known) (stop : Stop) :
    decoder.decodeWithStop stop
      = (((known.walk false stop).1.1 >>= delivered, (known.walk false stop).1.2),
        (known.walk false stop).2) := by
  unfold decodeWithStop
  rw [ran]
  dsimp only
  generalize known.walk false stop = walked
  obtain ⟨⟨result, stop'⟩, decoder'⟩ := walked
  cases result with
  | error err => rfl
  | ok frames =>
    show _ = ((delivered frames, stop'), decoder')
    unfold delivered
    dsimp only
    split <;> rfl

/-- **What a decoder knows decides what it decodes.** -/
theorem SameKnowledge.decode_eq {decoder other known known' : Decoder σ}
    (same : SameKnowledge known known') (ran : decodeHeaders decoder = .ok () known)
    (ran' : decodeHeaders other = .ok () known') (planned : ∃ plan, known.plan? false = some plan) :
    other.decode.1 = decoder.decode.1 ∧ other.decode.2.embedded = decoder.decode.2.embedded := by
  obtain ⟨plan, planned⟩ := planned
  obtain ⟨results, embedded⟩ := same.walk_eq planned .never
  unfold decode
  rw [decodeWithStop_eq_walk ran, decodeWithStop_eq_walk ran', results]
  exact ⟨rfl, embedded⟩

variable [LawfulByteSource σ]

/-- A call changes nothing of what is known, once the header was read. -/
theorem sameKnowledge_perform {decoder : Decoder σ} (decoded : decoder.headersDecoded = true)
    (call : Call) : SameKnowledge decoder (decoder.perform call) := by
  have opened := decodeHeaders_of_decoded decoded
  have decodes : ∀ stop, SameKnowledge decoder (decoder.decodeWithStop stop).2 := by
    intro stop
    rw [decodeWithStop_eq_walk opened]
    exact sameKnowledge_walk decoder false stop
  cases call with
  | headers =>
    show SameKnowledge decoder (behind (decodeHeaders decoder))
    rw [opened]
    exact .refl decoder
  | decode => exact decodes .never
  | decodeWithStop stop => exact decodes stop

/-- **Neither does a sequence of calls.** -/
theorem sameKnowledge_performAll {decoder : Decoder σ} (decoded : decoder.headersDecoded = true)
    (calls : List Call) : SameKnowledge decoder (decoder.performAll calls) := by
  induction calls generalizing decoder with
  | nil => exact .refl decoder
  | cons call calls ih =>
    have same := sameKnowledge_perform decoded call
    exact same.trans (ih (same.headersDecoded.trans decoded))

/-- **A header that can be read is known after any calls.** -/
theorem exists_sameKnowledge_of_ok {decoder known : Decoder σ}
    (unread : decoder.headersDecoded = false) (ran : decodeHeaders decoder = .ok () known)
    (calls : List Call) :
    ∃ known', decodeHeaders (decoder.performAll calls) = .ok () known'
      ∧ SameKnowledge known known' := by
  cases calls with
  | nil => exact ⟨known, ran, .refl known⟩
  | cons call calls =>
    -- the first call has read the header
    obtain ⟨plan, foreknows, -, -⟩ := foreknows_of_ok unread ran
    have same := sameKnowledge_performAll foreknows.decoded (call :: calls)
    rw [performAll_of_decodeHeaders_eq_ok ran foreknows.decoded (List.cons_ne_nil _ _)]
    exact ⟨_, decodeHeaders_of_decoded (same.headersDecoded.trans foreknows.decoded), same⟩

/-! ## Decoders whose header cannot be read -/

/-- **A header that cannot be read** fails with the same error, whatever was tried
before. The embedded files are those of the walk that failed, or if it was never begun
they are as they were. -/
theorem Unopened.decodeHeaders_eq_error {decoder other failed : Decoder σ} {err : WpgError}
    (unopened : Unopened decoder other) (unread : decoder.headersDecoded = false)
    (ran : decodeHeaders decoder = .error err failed) :
    ∃ failed', decodeHeaders other = .error err failed'
      ∧ (failed'.embedded = failed.embedded
        ∨ failed.embedded = decoder.embedded ∧ failed'.embedded = other.embedded) := by
  rw [decodeHeaders_of_unread unread] at ran
  rw [decodeHeaders_of_unread unopened.unread]
  split at ran
  · next read =>
    cases ran
    have read' := readHeader_corresponds unopened.file
    rw [read] at read'
    generalize readHeader other = result at read'
    cases read' with
    | error related =>
      refine ⟨_, rfl, .inr ⟨?_, ?_⟩⟩
      · rw [(readHeader_moved.of_error read).eq]
      · rw [related]
  next header mid read =>
  rw [readHeader_of_sameFile unopened.file read]
  dsimp only
  split at ran
  · next cause source measured =>
    cases ran
    exact ⟨_, rfl, .inr ⟨rfl, rfl⟩⟩
  next size source measured =>
  have told : SameKnowledge (decoder.told source header size) (other.told source header size) :=
    ⟨.refl source, unopened.options, rfl, rfl, unopened.unread.trans unread.symm⟩
  cases planned : (decoder.told source header size).plan? true with
  | none =>
    obtain ⟨err', went, went'⟩ := told.walk_of_unplanned planned .never
    rw [went] at ran
    cases ran
    rw [went']
    exact ⟨_, rfl, .inr ⟨rfl, rfl⟩⟩
  | some plan =>
    obtain ⟨results, embedded⟩ := told.walk_eq planned .never
    generalize (decoder.told source header size).walk true .never = walked,
      (other.told source header size).walk true .never = walked' at ran results embedded ⊢
    obtain ⟨⟨result, stop⟩, last⟩ := walked
    obtain ⟨⟨result', stop'⟩, last'⟩ := walked'
    cases results
    cases result with
    | ok frames => cases ran
    | error err' =>
      cases ran
      exact ⟨_, rfl, .inl embedded⟩

/-- **Decoders that failed to read the header** of a file, any number of times: each of
them will fail again, and it knows the embedded files that are known then, or none. -/
structure Failing (decoder failed other : Decoder σ) : Prop extends Unopened decoder other where
  /-- The embedded files are those known before the first failure or behind it. -/
  embedded : other.embedded = decoder.embedded ∨ other.embedded = failed.embedded

namespace Failing

variable {decoder failed other : Decoder σ} {err : WpgError}

/-- **The next failure is like the first one.** -/
theorem decodeHeaders_eq_error (failing : Failing decoder failed other)
    (unread : decoder.headersDecoded = false) (ran : decodeHeaders decoder = .error err failed) :
    ∃ failed', decodeHeaders other = .error err failed' ∧ failed'.embedded = failed.embedded
      ∧ Failing decoder failed failed' := by
  obtain ⟨failed', ran', found⟩ := failing.toUnopened.decodeHeaders_eq_error unread ran
  have embedded : failed'.embedded = failed.embedded := by
    obtain same | ⟨untouched, untouched'⟩ := found
    · exact same
    · obtain before | behind := failing.embedded
      · rw [untouched', before, untouched]
      · rw [untouched', behind]
  have left := unopened_of_error failing.unread ran'
  exact ⟨failed', ran', embedded, ⟨left.unread, failing.file.trans left.file,
    left.options.trans failing.options⟩, .inr embedded⟩

/-- No call changes that. -/
theorem performAll (failing : Failing decoder failed other)
    (unread : decoder.headersDecoded = false) (ran : decodeHeaders decoder = .error err failed)
    (calls : List Call) : Failing decoder failed (other.performAll calls) := by
  induction calls generalizing other with
  | nil => exact failing
  | cons call calls ih =>
    obtain ⟨failed', ran', -, failing'⟩ := failing.decodeHeaders_eq_error unread ran
    refine ih ?_
    rw [perform_of_decodeHeaders_eq_error ran']
    exact failing'

/-- To decode fails with the header. -/
theorem decode_eq (failing : Failing decoder failed other)
    (unread : decoder.headersDecoded = false) (ran : decodeHeaders decoder = .error err failed) :
    other.decode.1 = .error err ∧ other.decode.2.embedded = failed.embedded := by
  obtain ⟨failed', ran', embedded, -⟩ := failing.decodeHeaders_eq_error unread ran
  unfold decode decodeWithStop
  rw [ran']
  exact ⟨rfl, embedded⟩

end Failing

/-! ## Decoding after any calls -/

/-- **Decoding can be repeated.** Whatever was asked of a decoder before, and wherever that
was stopped, to decode delivers the frames, or the error, that a new decoder delivers,
from wherever in the file it starts, and the embedded files known behind it are the
same. -/
theorem decode_performAll (source : σ) (options : Options) (calls : List Call) {again : σ}
    (file : SameFile source again) :
    let last := performAll ({ source, options } : Decoder σ) calls
    let fresh : Decoder σ := { source := again, options }
    last.decode.1 = fresh.decode.1 ∧ last.decode.2.embedded = fresh.decode.2.embedded := by
  intro last fresh
  have unopened : Unopened ({ source, options } : Decoder σ) fresh := ⟨rfl, file, rfl⟩
  cases ran : decodeHeaders ({ source, options } : Decoder σ) with
  | error err failed =>
    have failing : Failing ({ source, options } : Decoder σ) failed { source, options } :=
      ⟨⟨rfl, .refl source, rfl⟩, .inl rfl⟩
    have failing' : Failing ({ source, options } : Decoder σ) failed fresh := ⟨unopened, .inl rfl⟩
    obtain ⟨result, embedded⟩ := (failing.performAll rfl ran calls).decode_eq rfl ran
    obtain ⟨result', embedded'⟩ := failing'.decode_eq rfl ran
    exact ⟨result.trans result'.symm, embedded.trans embedded'.symm⟩
  | ok _ known =>
    obtain ⟨plan, foreknows, -, -⟩ := foreknows_of_ok rfl ran
    have opened := unopened.decodeHeaders_eq_ok rfl ran
    obtain ⟨known', opened', same⟩ := exists_sameKnowledge_of_ok rfl ran calls
    exact same.decode_eq opened opened' ⟨_, plan?_headersOnly foreknows.planned false⟩

set_option maxRecDepth 4000 in
/-- A decode that was stopped inside the bitmap has met one embedded file. The next one
meets both of them, as that of a new decoder does, whose source starts behind the
header. -/
theorem decode_performAll_embeddedAround :
    let source : Cursor := .ofBytes Bytes.embeddedAround
    let again : Cursor := ⟨Bytes.embeddedAround, 16⟩
    let calls : List Call := [.headers, .decodeWithStop (.after 1 .cancelled)]
    let stopped := performAll ({ source, options := {} } : Decoder Cursor) calls
    let fresh : Decoder Cursor := { source := again, options := {} }
    SameFile source again ∧ stopped.embedded.size = 1 ∧ fresh.decode.2.embedded.size = 2
      ∧ stopped.decode.1 = fresh.decode.1
      ∧ stopped.decode.2.embedded = fresh.decode.2.embedded := by
  intro source again calls
  have file : SameFile source again := Cursor.sameFile_iff.mpr rfl
  have met : (performAll ({ source, options := {} } : Decoder Cursor) calls).embedded.size = 1
      ∧ (decode ({ source := again, options := {} } : Decoder Cursor)).2.embedded.size = 2 := by
    decide +kernel
  exact ⟨file, met.1, met.2, decode_performAll source {} calls file⟩

end Decoder

end WpgRaster
