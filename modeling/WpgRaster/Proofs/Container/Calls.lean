import WpgRaster.Proofs.Container.Headers

/-!
# Calls in sequence

A decoder can be asked for the header and for the frames, in any order and any
number of times (`Decoder.Call`). Whether its header can be read is a matter of
the file alone: the first call settles it for all others
(`Decoder.performAll_of_decodeHeaders_eq_ok`,
`Decoder.Unopened.performAll`). What is known of the first bitmap is the
result of the walk for the header, but every walk that decodes the file
replaces it by nothing. So it is known as long as nothing was decoded
(`Decoder.dimensions_performAll_iff`).
-/

namespace WpgRaster

namespace Decoder

/-- **What can be asked of a decoder.** -/
inductive Call
  /-- To read the header. -/
  | headers
  /-- To decode the file. -/
  | decode
  /-- To decode the file unless a stop fires. -/
  | decodeWithStop (stop : Stop)

variable {σ : Type} [ByteSource σ]

/-- The decoder behind a call, whether or not it goes well. -/
def perform (decoder : Decoder σ) : Call → Decoder σ
  | .headers => behind (decodeHeaders decoder)
  | .decode => decoder.decode.2
  | .decodeWithStop stop => (decoder.decodeWithStop stop).2

/-- The answer to a call: the frames, if it decodes. -/
def answer (decoder : Decoder σ) : Call → Except WpgError (Array Frame)
  | .headers =>
    match decodeHeaders decoder with
    | .ok () _ => .ok #[]
    | .error err _ => .error err
  | .decode => decoder.decode.1
  | .decodeWithStop stop => (decoder.decodeWithStop stop).1.1

/-- The decoder behind a sequence of calls. -/
def performAll (decoder : Decoder σ) (calls : List Call) : Decoder σ :=
  calls.foldl perform decoder

/-! ## What is known of a file -/

/-- **Decoders that know the same of a file**, wherever they are in it, and whatever
they found in it last. -/
structure SameKnowledge (decoder other : Decoder σ) : Prop where
  /-- The file is the same. -/
  file : SameFile decoder.source other.source
  /-- So are the options. -/
  options : other.options = decoder.options
  /-- So is the header. -/
  header : other.header = decoder.header
  /-- So is the size of the file. -/
  fileSize : other.fileSize = decoder.fileSize
  /-- Both have read the header, or neither has. -/
  headersDecoded : other.headersDecoded = decoder.headersDecoded

namespace SameKnowledge

variable {decoder other : Decoder σ}

theorem refl (decoder : Decoder σ) : SameKnowledge decoder decoder :=
  ⟨.refl decoder.source, rfl, rfl, rfl, rfl⟩

theorem trans {third : Decoder σ} (first : SameKnowledge decoder other)
    (second : SameKnowledge other third) : SameKnowledge decoder third where
  file := first.file.trans second.file
  options := second.options.trans first.options
  header := second.header.trans first.header
  fileSize := second.fileSize.trans first.fileSize
  headersDecoded := second.headersDecoded.trans first.headersDecoded

end SameKnowledge

/-! ## Decoders that know their header -/

/-- **A decoder that has read its header.** -/
structure Opened (decoder : Decoder σ) : Prop where
  /-- It knows that. -/
  decoded : decoder.headersDecoded = true
  /-- It can plan a walk. -/
  planned : ∃ plan, decoder.plan? false = some plan

variable [LawfulByteSource σ]

/-- **Decoding forgets the first bitmap**, and nothing else that the header is
needed for, whether or not it goes well. -/
theorem Opened.decodeWithStop {decoder : Decoder σ} (opened : decoder.Opened) (stop : Stop) :
    (decoder.perform (.decodeWithStop stop)).Opened
      ∧ (decoder.perform (.decodeWithStop stop)).firstBitmap = none := by
  obtain ⟨decoded, plan, planned⟩ := opened
  have kept := Walk.steps_firstBitmap (headersOnly_of_plan? planned)
    (plan.fileSize - plan.start) plan.start (Walk.make plan.level decoder.source stop)
  have left : (decoder.decodeWithStop stop).2 = decoder.after
      (behind (Walk.run plan (Walk.make plan.level decoder.source stop))) := by
    rw [decodeWithStop_of_ok (decodeHeaders_of_decoded decoded) planned]
    cases Walk.run plan (Walk.make plan.level decoder.source stop) <;> rfl
  show Opened (decoder.decodeWithStop stop).2 ∧ (decoder.decodeWithStop stop).2.firstBitmap = none
  rw [left]
  exact ⟨⟨decoded, plan, planned⟩, kept⟩

/-- A call for the header changes nothing, and every other one forgets the first
bitmap. -/
theorem Opened.perform {decoder : Decoder σ} (opened : decoder.Opened) (call : Call) :
    (call = .headers ∧ decoder.perform call = decoder)
      ∨ (call ≠ .headers ∧ (decoder.perform call).Opened
        ∧ (decoder.perform call).firstBitmap = none) := by
  cases call with
  | headers =>
    refine .inl ⟨rfl, ?_⟩
    show behind (decodeHeaders decoder) = decoder
    rw [decodeHeaders_of_decoded opened.decoded]
    rfl
  | decode => exact .inr ⟨nofun, opened.decodeWithStop .never⟩
  | decodeWithStop stop => exact .inr ⟨nofun, opened.decodeWithStop stop⟩

/-- Once forgotten, the first bitmap is never known again. -/
theorem Opened.firstBitmap_performAll {decoder : Decoder σ} (opened : decoder.Opened)
    (none : decoder.firstBitmap = none) (calls : List Call) :
    (decoder.performAll calls).firstBitmap = .none := by
  induction calls generalizing decoder with
  | nil => exact none
  | cons call calls ih =>
    obtain ⟨-, same⟩ | ⟨-, opened', none'⟩ := opened.perform call
    · show ((decoder.perform call).performAll calls).firstBitmap = _
      rw [same]
      exact ih opened none
    · exact ih opened' none'

/-- **A sequence of calls** changes nothing if all of them are for the header, and
otherwise forgets the first bitmap. -/
theorem Opened.performAll {decoder : Decoder σ} (opened : decoder.Opened) (calls : List Call) :
    ((∀ call ∈ calls, call = .headers) ∧ decoder.performAll calls = decoder)
      ∨ ((∃ call ∈ calls, call ≠ .headers) ∧ (decoder.performAll calls).firstBitmap = none) := by
  induction calls with
  | nil => exact .inl ⟨nofun, rfl⟩
  | cons call calls ih =>
    obtain ⟨headers, same⟩ | ⟨decodes, opened', none⟩ := opened.perform call
    · have rest : decoder.performAll (call :: calls) = decoder.performAll calls := by
        show (decoder.perform call).performAll calls = _
        rw [same]
      rw [rest]
      obtain ⟨all, same'⟩ | ⟨⟨other, among, decodes⟩, none⟩ := ih
      · exact .inl ⟨List.forall_mem_cons.mpr ⟨headers, all⟩, same'⟩
      · exact .inr ⟨⟨other, List.mem_cons_of_mem _ among, decodes⟩, none⟩
    · exact .inr ⟨⟨call, List.mem_cons_self, decodes⟩, opened'.firstBitmap_performAll none calls⟩

/-! ## Decoders that do not know it yet -/

/-- **Decoders of a file that have not read its header**, whatever else they
know. -/
structure Unopened (decoder other : Decoder σ) : Prop where
  /-- The header was not read. -/
  unread : other.headersDecoded = false
  /-- The file is the same. -/
  file : SameFile decoder.source other.source
  /-- So are the options. -/
  options : other.options = decoder.options

/-- **What a header tells is the same**, whatever was tried before. -/
theorem Unopened.decodeHeaders_eq_ok {decoder other known : Decoder σ}
    (unopened : Unopened decoder other) (unread : decoder.headersDecoded = false)
    (ran : decodeHeaders decoder = .ok () known) : decodeHeaders other = .ok () known := by
  obtain ⟨header, mid, size, source, frames, stop, walked, read, length, went, rfl⟩ :=
    exists_of_decodeHeaders_ok unread ran
  have read' := readHeader_of_sameFile unopened.file read
  obtain ⟨plan, last, planned, run, rfl, rfl, rfl⟩ := exists_of_walk_ok went
  have planned' : (other.told source header size).plan? true = some plan := by
    rw [← planned]
    unfold plan? told
    rw [unopened.options]
  have same : (other.told source header size).after last
      = (decoder.told source header size).after last := by
    unfold told after
    rw [unopened.options, unopened.unread, unread]
  have went' := walk_of_run_ok planned' run
  rw [same] at went'
  exact decodeHeaders_of_walk unopened.unread read' length went'

/-- **A walk changes nothing of what is known**, but what it found. -/
theorem sameKnowledge_walk (decoder : Decoder σ) (headersOnly : Bool) (stop : Stop) :
    SameKnowledge decoder (decoder.walk headersOnly stop).2 := by
  cases planned : decoder.plan? headersOnly with
  | none =>
    obtain ⟨err, failed⟩ := walk_of_plan?_eq_none planned stop
    rw [failed]
    exact .refl decoder
  | some plan =>
    have proceeds := Walk.steps_proceeds plan (plan.fileSize - plan.start) plan.start
      (Walk.make plan.level decoder.source stop)
    rw [walk_eq planned]
    change Walk.Proceeds _ (behind (Walk.run plan _)) at proceeds
    generalize Walk.run plan (Walk.make plan.level decoder.source stop) = result at proceeds ⊢
    cases result <;> exact ⟨proceeds.file, rfl, rfl, rfl, rfl⟩

/-- Walking over the records does not read the header. -/
theorem Unopened.walk {decoder other : Decoder σ} (unopened : Unopened decoder other)
    (headersOnly : Bool) (stop : Stop) : Unopened decoder (other.walk headersOnly stop).2 := by
  have same := sameKnowledge_walk other headersOnly stop
  exact ⟨same.headersDecoded.trans unopened.unread, unopened.file.trans same.file,
    same.options.trans unopened.options⟩

/-- A header that cannot be read leaves the decoder without one. -/
theorem unopened_of_error {decoder failed : Decoder σ} {err : WpgError}
    (unread : decoder.headersDecoded = false) (ran : decodeHeaders decoder = .error err failed) :
    Unopened decoder failed := by
  rw [decodeHeaders_of_unread unread] at ran
  split at ran
  · next read =>
    cases ran
    have moved := readHeader_moved.of_error read
    exact ⟨by rw [moved.eq]; exact unread, moved.file, by rw [moved.eq]⟩
  next header mid read =>
  have file := (readHeader_moved.of_ok read).file
  split at ran
  · next cause source measured =>
    cases ran
    exact ⟨unread, file.trans (ByteSource.length_sameFile.of_error measured), rfl⟩
  next size source measured =>
  have told : Unopened decoder (decoder.told source header size) :=
    ⟨unread, file.trans (ByteSource.length_sameFile.of_ok measured), rfl⟩
  have left := told.walk true .never
  split at ran
  · next went =>
    cases ran
    rw [went] at left
    exact left
  · cases ran

omit [LawfulByteSource σ] in
/-- A call fails with the header. -/
theorem perform_of_decodeHeaders_eq_error {decoder failed : Decoder σ} {err : WpgError}
    (ran : decodeHeaders decoder = .error err failed) (call : Call) :
    decoder.perform call = failed := by
  have decodes : ∀ stop, (decoder.decodeWithStop stop).2 = failed := by
    intro stop
    unfold decodeWithStop
    rw [ran]
  cases call with
  | headers => exact congrArg behind ran
  | decode => exact decodes .never
  | decodeWithStop stop => exact decodes stop

/-- So is every file whose header cannot be read: no call changes that. -/
theorem Unopened.performAll {decoder other : Decoder σ} {err : WpgError} {failed : Decoder σ}
    (ran : decodeHeaders decoder = .error err failed) (unread : decoder.headersDecoded = false)
    (unopened : Unopened decoder other) (calls : List Call) :
    Unopened decoder (other.performAll calls) := by
  induction calls generalizing other with
  | nil => exact unopened
  | cons call calls ih =>
    refine ih ?_
    cases ran' : decodeHeaders other with
    | ok _ known =>
      have back : Unopened other decoder :=
        ⟨unread, unopened.file.symm, unopened.options.symm⟩
      rw [back.decodeHeaders_eq_ok unopened.unread ran'] at ran
      cases ran
    | error err' failed' =>
      have failed := unopened_of_error unopened.unread ran'
      rw [perform_of_decodeHeaders_eq_error ran']
      exact ⟨failed.unread, unopened.file.trans failed.file, failed.options.trans unopened.options⟩

/-! ## What is known after a sequence of calls -/

omit [LawfulByteSource σ] in
/-- **The first call reads the header.** -/
theorem performAll_of_decodeHeaders_eq_ok {decoder known : Decoder σ}
    (ran : decodeHeaders decoder = .ok () known) (decoded : known.headersDecoded = true)
    {calls : List Call} (some : calls ≠ []) :
    decoder.performAll calls = known.performAll calls := by
  obtain ⟨call, calls, rfl⟩ := List.exists_cons_of_ne_nil some
  have again := decodeHeaders_of_decoded decoded
  have same : ∀ stop, (decoder.decodeWithStop stop).2 = (known.decodeWithStop stop).2 := by
    intro stop
    unfold decodeWithStop
    rw [ran, again]
  have same : decoder.perform call = known.perform call := by
    cases call with
    | headers =>
      show behind (decodeHeaders decoder) = behind (decodeHeaders known)
      rw [ran, again]
    | decode => exact same .never
    | decodeWithStop stop => exact same stop
  show (decoder.perform call).performAll calls = (known.perform call).performAll calls
  rw [same]

/-- **What is known of the first bitmap after a sequence of calls**, of a decoder
whose header could be read at one of them. It could then be read at the very
first. Behind the last call, the size and the colour space are those that the
header alone tells if and only if all calls were for the header, or there is no
bitmap; otherwise neither is known. -/
theorem dimensions_performAll_iff (source : σ) (options : Options) {before later : List Call}
    {opened : Decoder σ}
    (ran : decodeHeaders (performAll ({ source, options } : Decoder σ) before) = .ok () opened) :
    let calls := before ++ .headers :: later
    let last := performAll ({ source, options } : Decoder σ) calls
    ∃ foretold, decodeHeaders ({ source, options } : Decoder σ) = .ok () foretold
      ∧ ((last.dimensions = foretold.dimensions ∧ last.colorSpace = foretold.colorSpace)
        ↔ (∀ call ∈ calls, call = .headers) ∨ foretold.dimensions = none)
      ∧ ((∃ call ∈ calls, call ≠ .headers) → last.dimensions = none ∧ last.colorSpace = none) := by
  intro calls last
  cases first : decodeHeaders ({ source, options } : Decoder σ) with
  | error err failed =>
    -- then the header could never be read
    have unopened := Unopened.performAll first rfl ⟨rfl, .refl source, rfl⟩ before
    have back : Unopened (performAll ({ source, options } : Decoder σ) before)
        { source, options } :=
      ⟨rfl, unopened.file.symm, unopened.options.symm⟩
    rw [back.decodeHeaders_eq_ok unopened.unread ran] at first
    cases first
  | ok _ foretold =>
    refine ⟨foretold, rfl, ?_⟩
    obtain ⟨plan, foreknows, -, -⟩ := foreknows_of_ok rfl first
    have opened : foretold.Opened :=
      ⟨foreknows.decoded, _, plan?_headersOnly foreknows.planned false⟩
    have last_eq : last = foretold.performAll calls :=
      performAll_of_decodeHeaders_eq_ok first foreknows.decoded
        (List.append_ne_nil_of_right_ne_nil _ (List.cons_ne_nil _ _))
    rw [last_eq]
    obtain ⟨all, same⟩ | ⟨⟨call, among, decodes⟩, forgotten⟩ := opened.performAll calls
    · rw [same]
      refine ⟨⟨fun _ => .inl all, fun _ => ⟨rfl, rfl⟩⟩, ?_⟩
      rintro ⟨call, among, decodes⟩
      exact absurd (all call among) decodes
    · have unknown : (foretold.performAll calls).dimensions = none
          ∧ (foretold.performAll calls).colorSpace = none := by
        unfold dimensions colorSpace
        rw [forgotten]
        exact ⟨ite_self none, ite_self none⟩
      rw [unknown.1, unknown.2]
      refine ⟨⟨fun same => .inr same.1.symm, ?_⟩, fun _ => ⟨rfl, rfl⟩⟩
      rintro (all | without)
      · exact absurd (all call among) decodes
      · refine ⟨without.symm, ?_⟩
        unfold dimensions at without
        rw [if_pos foreknows.decoded, Option.map_eq_none_iff] at without
        unfold colorSpace
        rw [without]
        exact (ite_self none).symm

set_option maxRecDepth 4000 in
/-- After a call for the header and one that decodes, the size is not known. -/
theorem dimensions_performAll_oneRow :
    let decoder : Decoder Cursor := { source := .ofBytes Bytes.oneRow }
    ∃ opened, decodeHeaders (decoder.performAll [.headers]) = .ok () opened
      ∧ ∃ foretold, decodeHeaders decoder = .ok () foretold ∧ foretold.dimensions = some (8, 1)
        ∧ (decoder.performAll ([.headers] ++ .headers :: [.decode])).dimensions = none := by
  intro decoder
  have opens : (match decodeHeaders (decoder.performAll [.headers]) with
      | .ok _ _ => true
      | .error _ _ => false) = true := by decide +kernel
  have told : (match decodeHeaders decoder with
      | .ok _ foretold => foretold.dimensions
      | .error _ _ => none) = some (8, 1) := by decide +kernel
  cases ran : decodeHeaders (decoder.performAll [.headers]) with
  | error err failed =>
    rw [ran] at opens
    cases opens
  | ok _ opened =>
    obtain ⟨foretold, foretells, -, forgotten⟩ :=
      @dimensions_performAll_iff Cursor _ _ decoder.source {} [.headers] [.decode] opened ran
    have foretells : decodeHeaders decoder = .ok () foretold := foretells
    rw [foretells] at told
    exact ⟨opened, rfl, foretold, foretells, told, (forgotten ⟨.decode, by simp, nofun⟩).1⟩

set_option maxRecDepth 4000 in
/-- So decoding makes a decoder forget the size of a bitmap that it knew, although
the header was read and the file has a bitmap. -/
theorem dimensions_perform_decode_oneRow :
    let decoder : Decoder Cursor := { source := .ofBytes Bytes.oneRow }
    (decoder.performAll [.headers]).dimensions = some (8, 1)
      ∧ (decoder.performAll [.headers]).decode.1.toOption.map Array.size = some 1
      ∧ (decoder.performAll [.headers, .decode]).headersDecoded = true
      ∧ (decoder.performAll [.headers, .decode]).dimensions = none
      ∧ (decoder.performAll [.headers, .decode]).colorSpace = none := by
  decide +kernel

end Decoder

end WpgRaster
