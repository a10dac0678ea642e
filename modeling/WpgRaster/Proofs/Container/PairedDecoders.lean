import WpgRaster.Proofs.Container.PairedWalks
import WpgRaster.Proofs.Container.Calls

/-!
# Decoders of files that are alike

Two decoders are *paired* if their sources are related and they know the same
(`Decoder.Paired`). The header of a file is read with exact reads, which may fail
for different causes; otherwise what is asked of paired decoders is answered
alike and leaves them paired (`Decoder.OpensAlike.decodeWithStop`), up to where the
first source fails for good or the second one was too late. If neither can be,
then the same holds of a sequence of calls (`Decoder.OpensAlike.performAll`).
-/

namespace WpgRaster

/-- **Errors that are alike**: the same ones, but errors of the sources may have
different causes. -/
inductive WpgError.Alike (alike : SourceError → SourceError → Prop) : WpgError → WpgError → Prop
  /-- The same error. -/
  | refl (err : WpgError) : Alike alike err err
  /-- Errors of the sources. -/
  | source {cause cause' : SourceError} : alike cause cause' →
    Alike alike (.source cause) (.source cause')

/-- **Results that are alike**: frames that are related one by one, or errors. -/
inductive DeliveredAlike (alike : SourceError → SourceError → Prop)
    (frames : Frame → Frame → Prop) :
    Except WpgError (Array Frame) → Except WpgError (Array Frame) → Prop
  /-- Frames. -/
  | ok {delivered delivered' : Array Frame} :
    List.Forall₂ frames delivered.toList delivered'.toList →
    DeliveredAlike alike frames (.ok delivered) (.ok delivered')
  /-- Errors. -/
  | error {err err' : WpgError} : err.Alike alike err' →
    DeliveredAlike alike frames (.error err) (.error err')

/-- Results that are alike without any difference are the same. -/
theorem DeliveredAlike.eq {delivered delivered' : Except WpgError (Array Frame)}
    (results : DeliveredAlike Eq Eq delivered delivered') : delivered = delivered' := by
  cases results with
  | ok same =>
    rw [List.forall₂_eq_eq_eq] at same
    rw [Array.toList_inj.mp same]
  | error same =>
    cases same with
    | refl => rfl
    | source same => rw [same]

namespace Decoder

variable {σ τ : Type}

/-- **Decoders that are paired**, of files of some size. -/
structure Paired (away : σ → τ → Prop) (size : Nat) (decoder : Decoder σ) (decoder' : Decoder τ) :
    Prop where
  /-- Their sources are related. -/
  source : away decoder.source decoder'.source
  /-- They accept the same. -/
  options : decoder.options = decoder'.options
  /-- They read the same header, if any. -/
  header : decoder.header = decoder'.header
  /-- They measured the same size. -/
  fileSize : decoder.fileSize = decoder'.fileSize
  /-- It is not beyond the file. -/
  within : decoder.fileSize ≤ size
  /-- Both know their header, or neither does. -/
  headersDecoded : decoder.headersDecoded = decoder'.headersDecoded
  /-- They know the same first bitmap. -/
  firstBitmap : decoder.firstBitmap = decoder'.firstBitmap
  /-- They know the same embedded files. -/
  embedded : decoder.embedded = decoder'.embedded

/-- The terms on which headers are read: exact reads may fail for different
causes, and the first source may fail for good. -/
def opening (alike : SourceError → SourceError → Prop) (away : σ → τ → Prop)
    (fatal : SourceError → Prop) (size : Nat) : Terms WpgError (Decoder σ) (Decoder τ) where
  alike := WpgError.Alike alike
  failed := Paired away size
  fatal := WpgError.Fatal fatal

/-- **Sources of which the header is read alike**, and which are walked over alike. -/
structure OpensAlike [ByteSource σ] [ByteSource τ] (tolerance : Tolerance)
    (here away : σ → τ → Prop) (late : τ → Prop) (alike : SourceError → SourceError → Prop)
    (fatal : SourceError → Prop) (size : Nat) : Prop
    extends Walk.WalksAlike tolerance here away late fatal size where
  /-- They can be moved to their beginning. -/
  start : ∀ s t, away s t → ∃ s' t', ByteSource.seek (.start 0) s = .ok 0 s'
    ∧ ByteSource.seek (.start 0) t = .ok 0 t' ∧ here s' t'
  /-- Exact reads are alike. -/
  take : ∀ count, Matches { alike, failed := away, fatal } here
    (ByteSource.take count : SourceM σ Bytes) (ByteSource.take count)
  /-- They have the same length. -/
  length : Compares { alike, failed := away, fatal } here
    (fun length s t => away s t ∧ length ≤ size)
    (ByteSource.length : SourceM σ Nat) ByteSource.length

/-- **Answers that are alike**: the results are, and the decoders left behind are
paired, or the first source failed for good. -/
def AnswersAlike (tolerance : Tolerance) (away : σ → τ → Prop)
    (alike : SourceError → SourceError → Prop) (fatal : SourceError → Prop) (size : Nat)
    (answer : (Except WpgError (Array Frame) × Stop) × Decoder σ)
    (answer' : (Except WpgError (Array Frame) × Stop) × Decoder τ) : Prop :=
  (DeliveredAlike alike tolerance.frames answer.1.1 answer'.1.1 ∧ answer.1.2 = answer'.1.2
      ∧ Paired away size answer.2 answer'.2)
    ∨ ∃ err, answer.1.1 = .error err ∧ err.Fatal fatal

variable {tolerance : Tolerance} {here away : σ → τ → Prop} {late : τ → Prop}
  {alike : SourceError → SourceError → Prop} {fatal : SourceError → Prop} {size : Nat}

theorem Paired.mono {decoder : Decoder σ} {decoder' : Decoder τ}
    (paired : Paired here size decoder decoder') (weaker : ∀ s t, here s t → away s t) :
    Paired away size decoder decoder' :=
  { paired with source := weaker _ _ paired.source }

/-- Decoders that know nothing yet. -/
theorem Paired.ofSources {source : σ} {source' : τ} (related : away source source')
    (options : Options) : Paired away size { source, options } { source := source', options } where
  source := related
  options := rfl
  header := rfl
  fileSize := rfl
  within := Nat.zero_le size
  headersDecoded := rfl
  firstBitmap := rfl
  embedded := rfl

/-- Paired decoders tell the same of the first bitmap. -/
theorem Paired.dimensions {decoder : Decoder σ} {decoder' : Decoder τ}
    (paired : Paired away size decoder decoder') : decoder.dimensions = decoder'.dimensions := by
  unfold Decoder.dimensions
  rw [paired.headersDecoded, paired.firstBitmap]

theorem Paired.colorSpace {decoder : Decoder σ} {decoder' : Decoder τ}
    (paired : Paired away size decoder decoder') : decoder.colorSpace = decoder'.colorSpace := by
  unfold Decoder.colorSpace
  rw [paired.headersDecoded, paired.firstBitmap]

/-- What walks found, decoders know. -/
theorem Paired.after {decoder : Decoder σ} {decoder' : Decoder τ}
    (paired : Paired here size decoder decoder') {walk : Walk σ} {walk' : Walk τ}
    (walked : Walk.Paired tolerance away walk walk') :
    Paired away size (decoder.after walk) (decoder'.after walk') :=
  { paired with
    source := walked.source
    firstBitmap := walked.firstBitmap
    embedded := walked.embedded }

/-- Paired decoders plan the same walks. -/
theorem Paired.plan? {decoder : Decoder σ} {decoder' : Decoder τ}
    (paired : Paired here size decoder decoder') (headersOnly : Bool) :
    decoder.plan? headersOnly = decoder'.plan? headersOnly := by
  unfold Decoder.plan?
  rw [paired.header, paired.options, paired.fileSize]

/-- A walk is planned within the file. -/
theorem Paired.plan_within {decoder : Decoder σ} {decoder' : Decoder τ}
    (paired : Paired here size decoder decoder') {headersOnly : Bool} {plan : WalkPlan}
    (planned : decoder.plan? headersOnly = some plan) : plan.fileSize ≤ size := by
  obtain ⟨_, _, _, _, rfl⟩ := plan?_eq_some.mp planned
  exact paired.within

/-- What is read of the sources is known of the decoders. -/
theorem onSource_compares {α : Type} {post : α → σ → τ → Prop} {step : SourceM σ α}
    {step' : SourceM τ α} (steps : Compares { alike, failed := away, fatal } here post step step') :
    Compares (opening alike away fatal size) (Paired here size) (fun a => Paired (post a) size)
      (onSource step) (onSource step') where
  compared decoder decoder' paired := by
    have results := steps.compared _ _ paired.source
    unfold onSource
    generalize step decoder.source = result, step' decoder'.source = result' at results
    cases results with
    | ok related => exact .ok { paired with source := related }
    | error same related => exact .error (.source same) { paired with source := related }
    | fatal failed => exact .fatal ⟨_, .inl rfl, failed⟩
    | late beyond => exact beyond.elim
  stays _ beyond := beyond.elim

variable [ByteSource σ] [ByteSource τ]

/-- **Decoders whose source is never too late** on the walks that a decode makes, the
one for the header and the one that decodes. -/
structure OnTime (late : τ → Prop) (stop : Stop) (decoder : Decoder τ) : Prop where
  /-- The walk for the header. -/
  header : decoder.headersDecoded = false → ∀ header mid length mid' plan,
    readHeader decoder = .ok header mid → onSource ByteSource.length mid = .ok length mid' →
    (mid'.told mid'.source header length).plan? true = some plan →
    Walk.OnTime late plan (plan.fileSize - plan.start) plan.start
      (Walk.make plan.level mid'.source .never)
  /-- The walk that decodes. -/
  records : ∀ known plan, decodeHeaders decoder = .ok () known → known.plan? false = some plan →
    Walk.OnTime late plan (plan.fileSize - plan.start) plan.start
      (Walk.make plan.level known.source stop)

/-- If it is never too late, then every decoder is on time. -/
theorem onTime_of_never (never : ∀ source, ¬ late source) (stop : Stop) (decoder : Decoder τ) :
    OnTime late stop decoder where
  header _ _ _ _ _ plan _ _ _ := Walk.onTime_of_never never plan _ _ _
  records _ plan _ _ := Walk.onTime_of_never never plan _ _ _

namespace OpensAlike

variable (opens : OpensAlike tolerance here away late alike fatal size)

include opens

/-- **The header is read alike.** -/
theorem readHeader :
    Compares (opening alike away fatal size) (Paired away size) (fun _ => Paired here size)
      (Decoder.readHeader : EStateM WpgError (Decoder σ) Header) Decoder.readHeader := by
  have sought : Compares { alike, failed := away, fatal } away (fun _ => here)
      (ByteSource.seek (.start 0) : SourceM σ Nat) (ByteSource.seek (.start 0)) :=
    { compared := fun s t related => by
        obtain ⟨s', t', moved, moved', there⟩ := opens.start s t related
        rw [moved, moved']
        exact .ok there
      stays := fun _ beyond => beyond.elim }
  have byte : Matches { alike, failed := away, fatal } here (ByteSource.next : SourceM σ UInt8)
      ByteSource.next := (opens.take 1).bind fun _ => .pure _
  have word : Matches { alike, failed := away, fatal } here
      (ByteSource.nextU16LE : SourceM σ UInt16) ByteSource.nextU16LE :=
    (opens.take 2).bind fun _ => .pure _
  have double : Matches { alike, failed := away, fatal } here
      (ByteSource.nextU32LE : SourceM σ UInt32) ByteSource.nextU32LE :=
    (opens.take 4).bind fun _ => .pure _
  have rest : ∀ fileId, Matches { alike, failed := away, fatal } here
      (Header.readRest fileId : SourceM σ Header) (Header.readRest fileId) := fun _ =>
    double.bind fun _ => word.bind fun _ => word.bind fun _ => byte.bind fun _ =>
      byte.bind fun _ => word.bind fun _ => .pure _
  have fails : ∀ {α : Type} (err : WpgError), Matches (opening alike away fatal size)
      (Paired here size) (throw err : EStateM WpgError (Decoder σ) α) (throw err) := fun err =>
    .throw (.refl err) fun _ _ paired => paired.mono opens.weaker
  unfold Decoder.readHeader
  refine (onSource_compares sought).bind fun _ => (onSource_compares double).bind fun fileId => ?_
  dsimp only
  refine .ite (fun _ => ?_) fun _ => (fails _).bind fun _ => ?_
  all_goals
    refine (onSource_compares (rest fileId)).bind fun header => ?_
    cases header.fault? with
    | some err => exact (fails err).bind fun _ => .pure _
    | none => exact .pure header

/-- **Walks of paired decoders** find the same. -/
theorem walk {decoder : Decoder σ} {decoder' : Decoder τ}
    (paired : Paired away size decoder decoder') {headersOnly : Bool} {stop : Stop}
    (onTime : ∀ plan, decoder'.plan? headersOnly = some plan →
      Walk.OnTime late plan (plan.fileSize - plan.start) plan.start
        (Walk.make plan.level decoder'.source stop)) :
    AnswersAlike tolerance away alike fatal size (decoder.walk headersOnly stop)
      (decoder'.walk headersOnly stop) := by
  cases planned' : decoder'.plan? headersOnly with
  | none =>
    -- without a plan, both fail for what is wrong with the header
    have failed : ∀ err, AnswersAlike tolerance away alike fatal size ((.error err, stop), decoder)
        ((.error err, stop), decoder') := fun err => .inl ⟨.error (.refl err), rfl, paired⟩
    unfold Decoder.walk
    rw [paired.header]
    cases known : decoder'.header with
    | none => exact failed _
    | some header =>
      cases levelled : header.level? with
      | none =>
        dsimp only
        rw [levelled]
        exact failed _
      | some level =>
        rw [plan?_eq_some.mpr ⟨header, known, level, levelled, rfl⟩] at planned'
        cases planned'
  | some plan =>
    have planned := (paired.plan? headersOnly).trans planned'
    have made : Walk.Paired tolerance away (Walk.make plan.level decoder.source stop)
        (Walk.make plan.level decoder'.source stop) :=
      { source := paired.source
        stop := rfl
        palette := opens.empty plan.level
        paletteError := rfl
        transform := rfl
        precision := rfl
        embedded := rfl
        firstBitmap := rfl
        frames := .nil }
    have walked := opens.steps (paired.plan_within planned) made (onTime plan planned')
    rw [walk_eq planned, walk_eq planned']
    unfold Walk.run
    generalize Walk.steps plan _ plan.start (Walk.make plan.level decoder.source stop) = result,
      Walk.steps plan _ plan.start (Walk.make plan.level decoder'.source stop) = result' at walked
    cases walked with
    | ok walked => exact .inl ⟨.ok walked.frames, walked.stop, paired.after walked⟩
    | error same walked =>
      cases same
      exact .inl ⟨.error (.refl _), walked.stop, paired.after walked⟩
    | fatal failed => exact .inr ⟨_, rfl, failed⟩
    | late beyond => exact beyond.elim

/-- What is known of the file is found alike once its header was read. -/
theorem look {decoder : Decoder σ} {decoder' : Decoder τ}
    (paired : Paired away size decoder decoder')
    (onTime : ∀ plan, decoder'.plan? true = some plan →
      Walk.OnTime late plan (plan.fileSize - plan.start) plan.start
        (Walk.make plan.level decoder'.source .never)) :
    Compared (opening alike away fatal size) (fun _ => Paired away size)
      ((do
        let (result, _) ← modifyGet (Decoder.walk true .never)
        let _ ← ofExcept result
        modify fun decoder => { decoder with headersDecoded := true } :
          EStateM WpgError (Decoder σ) Unit) decoder)
      ((do
        let (result, _) ← modifyGet (Decoder.walk true .never)
        let _ ← ofExcept result
        modify fun decoder => { decoder with headersDecoded := true } :
          EStateM WpgError (Decoder τ) Unit) decoder') := by
  have walked := opens.walk paired onTime
  generalize went : decoder.walk true .never = answer, went' : decoder'.walk true .never = answer'
    at walked
  obtain ⟨⟨result, stop⟩, walk⟩ := answer
  obtain ⟨⟨result', stop'⟩, walk'⟩ := answer'
  rw [bind_of_ok (modifyGet_of_eq went), bind_of_ok (modifyGet_of_eq went')]
  obtain ⟨delivered, -, behind⟩ | ⟨err, failed, lost⟩ := walked
  · cases delivered with
    | ok _ => exact .ok { behind with headersDecoded := rfl }
    | error same => exact .error same behind
  · cases failed
    exact .fatal lost

/-- **Headers are decoded alike.** -/
theorem decodeHeaders {decoder : Decoder σ} {decoder' : Decoder τ}
    (paired : Paired away size decoder decoder') {stop : Stop}
    (onTime : decoder'.OnTime late stop) :
    Compared (opening alike away fatal size) (fun _ => Paired away size)
      (Decoder.decodeHeaders decoder) (Decoder.decodeHeaders decoder') := by
  cases decoded : decoder'.headersDecoded with
  | true =>
    rw [decodeHeaders_of_decoded decoded,
      decodeHeaders_of_decoded (paired.headersDecoded.trans decoded)]
    exact .ok paired
  | false =>
    have got : (get : EStateM WpgError (Decoder σ) (Decoder σ)) decoder = .ok decoder decoder := rfl
    have got' : (get : EStateM WpgError (Decoder τ) (Decoder τ)) decoder'
        = .ok decoder' decoder' := rfl
    unfold Decoder.decodeHeaders
    rw [bind_of_ok got, bind_of_ok got', paired.headersDecoded, decoded,
      if_neg Bool.false_ne_true, if_neg Bool.false_ne_true]
    have read := opens.readHeader.compared _ _ paired
    show Compared _ _ ((Decoder.readHeader >>= _) decoder) ((Decoder.readHeader >>= _) decoder')
    generalize ran : Decoder.readHeader decoder = result,
      ran' : Decoder.readHeader decoder' = result' at read
    cases read with
    | error same behind =>
      rw [bind_of_error ran, bind_of_error ran']
      exact .error same (behind.mono fun _ _ => id)
    | fatal failed =>
      rw [bind_of_error ran]
      exact .fatal failed
    | late beyond => exact beyond.elim
    | @ok header mid mid' behind =>
      rw [bind_of_ok ran, bind_of_ok ran']
      have lengths : Compared (opening alike away fatal size) _ _ _ :=
        (onSource_compares opens.length).compared mid mid' behind
      generalize measured : onSource ByteSource.length mid = result,
        measured' : onSource ByteSource.length mid' = result' at lengths
      cases lengths with
      | error same behind =>
        rw [bind_of_error measured, bind_of_error measured']
        exact .error same behind
      | fatal failed =>
        rw [bind_of_error measured]
        exact .fatal failed
      | late beyond => exact beyond.elim
      | @ok length mid₁ mid₁' measures =>
        rw [bind_of_ok measured, bind_of_ok measured']
        have told : Paired away size (mid₁.told mid₁.source header length)
            (mid₁'.told mid₁'.source header length) :=
          { measures with
            source := measures.source.1
            header := rfl
            fileSize := rfl
            within := Nat.le_trans (Nat.min_le_left _ _) measures.source.2 }
        exact opens.look told fun plan planned =>
          onTime.header decoded header mid' length mid₁' plan ran' measured' planned

/-- **Files are decoded alike.** -/
theorem decodeWithStop {decoder : Decoder σ} {decoder' : Decoder τ}
    (paired : Paired away size decoder decoder') {stop : Stop}
    (onTime : decoder'.OnTime late stop) :
    AnswersAlike tolerance away alike fatal size (decoder.decodeWithStop stop)
      (decoder'.decodeWithStop stop) := by
  have opened := opens.decodeHeaders paired onTime
  unfold Decoder.decodeWithStop
  generalize Decoder.decodeHeaders decoder = result, ran' : Decoder.decodeHeaders decoder' = result'
    at opened
  cases opened with
  | error same behind => exact .inl ⟨.error same, rfl, behind⟩
  | fatal failed => exact .inr ⟨_, rfl, failed⟩
  | late beyond => exact beyond.elim
  | @ok _ known known' behind =>
    have walked := opens.walk behind fun plan planned => onTime.records known' plan ran' planned
    dsimp only
    generalize known.walk false stop = answer, known'.walk false stop = answer' at walked
    obtain ⟨⟨result, stop₁⟩, walked₁⟩ := answer
    obtain ⟨⟨result', stop₁'⟩, walked₁'⟩ := answer'
    obtain ⟨delivered, asked, behind⟩ | ⟨err, failed, lost⟩ := walked
    · cases asked
      cases delivered with
      | @ok frames frames' alike =>
        have many : frames.isEmpty = frames'.isEmpty :=
          congrArg (fun count : Nat => decide (count = 0)) alike.length_eq
        dsimp only
        rw [many]
        split
        · exact .inl ⟨.error (.refl _), rfl, behind⟩
        · exact .inl ⟨.ok alike, rfl, behind⟩
      | error same => exact .inl ⟨.error same, rfl, behind⟩
    · cases failed
      exact .inr ⟨err, rfl, lost⟩

end OpensAlike

/-! ## Calls in sequence -/

namespace OpensAlike

variable (opens : OpensAlike tolerance here away (fun _ => False) alike (fun _ => False) size)

include opens

/-- **A call is answered alike** and leaves paired decoders behind, if nothing can
come in between. -/
theorem perform {decoder : Decoder σ} {decoder' : Decoder τ}
    (paired : Paired away size decoder decoder') (call : Call) :
    DeliveredAlike alike tolerance.frames (decoder.answer call) (decoder'.answer call)
      ∧ Paired away size (decoder.perform call) (decoder'.perform call) := by
  have onTime : ∀ stop, decoder'.OnTime (fun _ => False) stop := fun stop =>
    onTime_of_never (fun _ => id) stop decoder'
  have decodes : ∀ stop, DeliveredAlike alike tolerance.frames (decoder.decodeWithStop stop).1.1
        (decoder'.decodeWithStop stop).1.1
      ∧ Paired away size (decoder.decodeWithStop stop).2 (decoder'.decodeWithStop stop).2 := by
    intro stop
    obtain ⟨delivered, -, behind⟩ | ⟨_, _, _, _, failed⟩ :=
      opens.decodeWithStop paired (onTime stop)
    · exact ⟨delivered, behind⟩
    · exact failed.elim
  cases call with
  | headers =>
    have opened := opens.decodeHeaders paired (onTime .never)
    unfold answer Decoder.perform
    dsimp only
    generalize Decoder.decodeHeaders decoder = result, Decoder.decodeHeaders decoder' = result'
      at opened
    cases opened with
    | ok behind => exact ⟨.ok .nil, behind⟩
    | error same behind => exact ⟨.error same, behind⟩
    | fatal failed =>
      obtain ⟨_, _, failed⟩ := failed
      exact failed.elim
    | late beyond => exact beyond.elim
  | decode => exact decodes .never
  | decodeWithStop stop => exact decodes stop

/-- **A sequence of calls leaves paired decoders behind.** -/
theorem performAll {decoder : Decoder σ} {decoder' : Decoder τ}
    (paired : Paired away size decoder decoder') (calls : List Call) :
    Paired away size (decoder.performAll calls) (decoder'.performAll calls) := by
  induction calls generalizing decoder decoder' with
  | nil => exact paired
  | cons call calls ih => exact ih (opens.perform paired call).2

end OpensAlike

end Decoder

end WpgRaster
