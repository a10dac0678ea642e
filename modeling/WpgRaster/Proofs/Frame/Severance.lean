import WpgRaster.Proofs.Frame.Simulation

/-!
# Frames that break off

A source that fails for good ends a frame at once, whatever the decoder was about. What was
handed over until then is the beginning of what is handed over if the source does not fail, since
decoding only advances: two decoders that do the same until the source of the first one fails
leave the first one behind, and the other one goes on (`Severs`). This is a congruence of
decoders (`SourceSevers.congruence`), so that nothing more has to be known of them than of their
reads.

A comparison up to a failure (`Compares`) does not look at the second decoder any more once the
first one has failed. Here it is followed to its end, because what the first one left behind is
only seen beside what the second one achieves.
-/

namespace WpgRaster

/-! ## Programs that break off -/

section

variable {ε σ τ α β : Type} {fatal : ε → Prop} {rel late : σ → τ → Prop}

/-- **Results of which the first may break off**: they correspond, or the first program failed
for good, and the second one left it behind. -/
inductive Severed (fatal : ε → Prop) (rel late : σ → τ → Prop) :
    EStateM.Result ε σ α → EStateM.Result ε τ α → Prop
  /-- Both went well. -/
  | ok {a : α} {s : σ} {t : τ} : rel s t → Severed fatal rel late (.ok a s) (.ok a t)
  /-- Both failed. -/
  | error {err : ε} {s : σ} {t : τ} : rel s t →
    Severed fatal rel late (.error err s) (.error err t)
  /-- The first one broke off. -/
  | off {err : ε} {s : σ} {result : EStateM.Result ε τ α} : fatal err → late s (behind result) →
    Severed fatal rel late (.error err s) result

/-- **Programs of which the first may break off.** -/
structure Severs (fatal : ε → Prop) (rel late : σ → τ → Prop) (step : EStateM ε σ α)
    (step' : EStateM ε τ α) : Prop where
  /-- From related states on, this is what comes out. -/
  severed : ∀ s t, rel s t → Severed fatal rel late (step s) (step' t)
  /-- What is left behind stays so. -/
  stays : ∀ s t, late s t → late s (behind (step' t))

namespace Severs

theorem pure (a : α) : Severs fatal rel late (Pure.pure a) (Pure.pure a) where
  severed _ _ related := .ok related
  stays _ _ left := left

theorem throw (err : ε) :
    Severs fatal rel late (MonadExcept.throw err : EStateM ε σ α) (MonadExcept.throw err) where
  severed _ _ related := .error related
  stays _ _ left := left

/-- **One step after another.** If the first program breaks off, then the second one goes on
without it. -/
theorem bind {step : EStateM ε σ α} {step' : EStateM ε τ α} {next : α → EStateM ε σ β}
    {next' : α → EStateM ε τ β} (first : Severs fatal rel late step step')
    (second : ∀ a, Severs fatal rel late (next a) (next' a)) :
    Severs fatal rel late (step >>= next) (step' >>= next') := by
  -- whatever the second program does next, it leaves behind what it did
  have onward : ∀ s t, late s (behind (step' t)) → late s (behind ((step' >>= next') t)) := by
    intro s t left
    cases run' : step' t with
    | ok a mid =>
      rw [run'] at left
      rw [bind_of_ok run']
      exact (second a).stays s mid left
    | error err mid =>
      rw [run'] at left
      rw [bind_of_error run']
      exact left
  refine ⟨fun s t related => ?_, fun s t left => onward s t (first.stays s t left)⟩
  have severed := first.severed s t related
  have goesOn := fun s => onward s t
  generalize run : step s = result, run' : step' t = result' at severed goesOn
  cases severed with
  | ok behind =>
    rw [bind_of_ok run, bind_of_ok run']
    exact (second _).severed _ _ behind
  | error behind =>
    rw [bind_of_error run, bind_of_error run']
    exact .error behind
  | off failed left =>
    rw [bind_of_error run]
    exact .off failed (goesOn _ left)

/-- Errors may be given another name. -/
theorem adaptExcept {ε' : Type} {fatal' : ε' → Prop} {name : ε → ε'} {step : EStateM ε σ α}
    {step' : EStateM ε τ α} (named : ∀ err, fatal err → fatal' (name err))
    (steps : Severs fatal rel late step step') :
    Severs fatal' rel late (step.adaptExcept name) (step'.adaptExcept name) where
  severed s t related := by
    have severed := steps.severed s t related
    unfold EStateM.adaptExcept
    generalize step s = result, step' t = result' at severed
    cases severed with
    | ok behind => exact .ok behind
    | error behind => exact .error behind
    | off failed left =>
      refine .off (named _ failed) ?_
      cases result' <;> exact left
  stays s t left := by
    have stays := steps.stays s t left
    unfold EStateM.adaptExcept
    generalize step' t = result' at stays
    cases result' <;> exact stays

end Severs

end

/-! ## Sources -/

/-- **A source that takes the place of another one until it fails for good**, in a way that ends
the frame at once and leaves the source behind. -/
structure SourceSevers {σ τ : Type} [ByteSource σ] [ByteSource τ] (fatal : RasterError → Prop)
    (rel late : σ → τ → Prop) : Prop where
  /-- Both hold as many bytes. -/
  size : ∀ source source', rel source source' →
    ByteSource.size source = ByteSource.size source'
  /-- The next byte is the same. -/
  nextByte : Severs fatal rel late (Token.nextByte : EStateM RasterError σ UInt8)
    (Token.nextByte : EStateM RasterError τ UInt8)
  /-- So is the next packed row. -/
  nextRow : ∀ width, Severs fatal rel late
    (FrameFormat.nextRow width : EStateM RasterError σ Bytes)
    (FrameFormat.nextRow width : EStateM RasterError τ Bytes)
  /-- Nothing is filled up behind the failure. -/
  final : ∀ err, fatal err →
    err ≠ .rowsExhausted ∧ err ≠ .streamTruncated ∧ err.abortsFrame = false

/-! ## Sessions -/

/-- **A session that was left behind** by another one, which has its rows behind it. -/
structure Session.Passed {σ τ κ : Type} [RowConsumer κ] (start : κ) (late : σ → τ → Prop)
    (session : Session σ κ) (session' : Session τ κ) : Prop where
  /-- The sources. -/
  source : late session.source session'.source
  /-- The rows. -/
  rows : Advances start session.rows session'.rows

/-- With the same consumer, rows that are related are the same. -/
theorem Session.Related.rows_eq {σ τ κ : Type} {rel : σ → τ → Prop} {session : Session σ κ}
    {session' : Session τ κ} (related : Session.Related rel Eq session session') :
    session.rows = session'.rows := by
  obtain ⟨_, ⟨_, _⟩, _⟩ := session
  obtain ⟨_, ⟨_, _⟩, _⟩ := session'
  obtain ⟨-, ⟨rfl, rfl⟩, -⟩ := related
  rfl

section

variable {σ τ κ α : Type} [RowConsumer κ] {start : κ} {fatal : RasterError → Prop}
  {rel late : σ → τ → Prop}

/-- Sessions with the same consumer of which the first may break off. -/
abbrev SessionsSever (start : κ) (fatal : RasterError → Prop) (rel late : σ → τ → Prop)
    (step : SessionM σ κ α) (step' : SessionM τ κ α) : Prop :=
  Severs fatal (Session.Related rel Eq) (Session.Passed start late) step step'

namespace SessionsSever

/-- A read of the source, which may fail for good. -/
theorem onSource {step : EStateM RasterError σ α} {step' : EStateM RasterError τ α}
    (steps : Severs fatal rel late step step') :
    SessionsSever start fatal rel late (Session.onSource step) (Session.onSource step') where
  severed session session' related := by
    have severed := steps.severed _ _ related.source
    have passed : Advances start session.rows session'.rows :=
      .of_same (by rw [related.rows_eq]) (by rw [related.rows_eq])
    rw [Session.onSource_eq, Session.onSource_eq]
    generalize step session.source = result, step' session'.source = result' at severed
    cases severed with
    | ok after => exact .ok ⟨after, related.rows, related.stop⟩
    | error after => exact .error ⟨after, related.rows, related.stop⟩
    | off failed left =>
      refine .off failed ?_
      cases result' <;> exact ⟨left, passed⟩
  stays session session' left := by
    have stays := steps.stays _ _ left.source
    rw [Session.onSource_eq]
    generalize step' session'.source = result' at stays
    cases result' <;> exact ⟨stays, left.rows⟩

/-- A step on the rows. -/
theorem onRows {op : RowM κ α} (moves : Moves start op) :
    SessionsSever start fatal rel late (Session.onRows op) (Session.onRows op) where
  severed session session' related := by
    rw [Session.onRows_eq, Session.onRows_eq, ← related.rows_eq]
    cases op session.rows with
    | ok a rows => exact .ok ⟨related.source, ⟨rfl, rfl⟩, related.stop⟩
    | error err rows => exact .error ⟨related.source, ⟨rfl, rfl⟩, related.stop⟩
  stays session session' left := by
    have moved := left.rows.trans (moves session'.rows)
    rw [Session.onRows_eq]
    generalize op session'.rows = result' at moved
    cases result' <;> exact ⟨left.source, moved⟩

theorem checkStop :
    SessionsSever start fatal rel late (Session.checkStop : SessionM σ κ Unit)
      Session.checkStop where
  severed session session' related := by
    rw [Session.checkStop_eq, Session.checkStop_eq, ← related.stop]
    cases Stop.check session.stop with
    | ok _ after => exact .ok ⟨related.source, related.rows, rfl⟩
    | error err after => exact .error ⟨related.source, related.rows, rfl⟩
  stays session session' left := by
    rw [Session.checkStop_eq]
    cases Stop.check session'.stop <;> exact ⟨left.source, left.rows⟩

theorem assembler :
    SessionsSever start fatal rel late (Session.assembler : SessionM σ κ RowAssembler)
      Session.assembler where
  severed session session' related := by
    rw [session.assembler_eq, session'.assembler_eq, ← related.rows_eq]
    exact .ok related
  stays _ _ left := left

end SessionsSever

/-! ## Frames -/

namespace SourceSevers

variable [ByteSource σ] [ByteSource τ] (severs : SourceSevers fatal rel late)
  (steadfast : Steadfast κ)

include severs steadfast

/-- **To break off is a congruence.** -/
theorem congruence :
    Session.Congruence fun ⦃_⦄ (step : SessionM σ κ _) (step' : SessionM τ κ _) =>
      SessionsSever start fatal rel late step step' where
  pure := .pure
  throw := .throw
  bind := .bind
  nextByte := .onSource severs.nextByte
  append byte := .onRows (RowAssembler.append_moves steadfast byte)
  appendRepeated bytes count := .onRows (RowAssembler.appendRepeated_moves steadfast bytes count)
  repeatRow count := .onRows (RowAssembler.repeatRow_moves steadfast count)
  toggleDelta := .onRows fun _ => .of_same rfl rfl
  checkStop := .checkStop
  assembler := .assembler
  nextRow width := .onSource (severs.nextRow width)
  appendAll bytes := .onRows (RowAssembler.appendAll_moves steadfast bytes)
  sized step step' steps :=
    { severed := fun session session' related => by
        rw [severs.size _ _ related.source]
        exact (steps _).severed _ _ related
      stays := fun session session' left => (steps _).stays session session' left }

omit [ByteSource σ] [ByteSource τ] severs in
/-- Bringing a frame to its end reads nothing. -/
theorem endRows (rowsDecoded : Nat) (outcome : Except RasterError Unit) :
    SessionsSever start fatal rel late
      (FrameFormat.endRows rowsDecoded outcome : SessionM σ κ Outcome)
      (FrameFormat.endRows rowsDecoded outcome) := by
  have fill : SessionsSever start fatal rel late
      (Session.onRows RowAssembler.fillRemaining : SessionM σ κ Nat)
      (Session.onRows RowAssembler.fillRemaining) :=
    .onRows (RowAssembler.fillRemaining_moves steadfast)
  exact FrameFormat.endRows_related (SessionsSever start fatal rel late) .pure .throw
    (fun last => fill.bind fun _ => last) rowsDecoded outcome

/-- **A frame breaks off with its rows.** -/
theorem decodeSession (compression : Compression) :
    SessionsSever start fatal rel late
      (FrameFormat.decodeSession compression : SessionM σ κ Outcome)
      (FrameFormat.decodeSession compression) := by
  have rows : SessionsSever start fatal rel late
      (FrameFormat.decodeRows compression : SessionM σ κ Unit)
      (FrameFormat.decodeRows compression) :=
    (congruence severs steadfast).decodeRows compression
  have onward : ∀ session session', Session.Passed start late session
        (behind (FrameFormat.decodeRows compression session')) →
      Session.Passed start late session
        (behind (FrameFormat.decodeSession compression session')) := by
    intro session session' left
    obtain ⟨outcome, ran'⟩ := exists_conclude (FrameFormat.decodeRows compression session')
    rw [FrameFormat.decodeSession_eq ran']
    have ended : ∀ count, SessionsSever start fatal rel late
        (FrameFormat.endRows count outcome : SessionM σ κ Outcome)
        (FrameFormat.endRows count outcome) := fun count => endRows steadfast count outcome
    exact (ended _).stays _ _ left
  refine ⟨fun session session' related => ?_, fun session session' left =>
    onward _ _ (rows.stays _ _ left)⟩
  have severed := rows.severed _ _ related
  have goesOn := fun session => onward session session'
  generalize ran : FrameFormat.decodeRows compression session = result,
    ran' : FrameFormat.decodeRows compression session' = result' at severed goesOn
  -- rows that ended alike are brought to their end alike
  have ended : ∀ (outcome : Except RasterError Unit) {mid : Session σ κ} {mid' : Session τ κ},
      FrameFormat.decodeRows compression session = conclude outcome mid →
      FrameFormat.decodeRows compression session' = conclude outcome mid' →
      Session.Related rel Eq mid mid' →
      Severed fatal (Session.Related rel Eq) (Session.Passed start late)
        (FrameFormat.decodeSession compression session)
        (FrameFormat.decodeSession compression session') := by
    intro outcome mid mid' ran ran' after
    rw [FrameFormat.decodeSession_eq ran, FrameFormat.decodeSession_eq ran', after.rows_eq]
    exact (endRows steadfast _ outcome).severed mid mid' after
  cases severed with
  | @ok a _ _ after => exact ended (.ok a) ran ran' after
  | @error err _ _ after => exact ended (.error err) ran ran' after
  | off failed left =>
    obtain ⟨more, early, kept⟩ := severs.final _ failed
    rw [FrameFormat.decodeSession_of_error ran more early, kept, if_neg Bool.false_ne_true]
    exact .off failed (goesOn _ left)

theorem checkedSession (compression : Compression) :
    SessionsSever start fatal rel late
      (FrameFormat.checkedSession compression : SessionM σ κ Outcome)
      (FrameFormat.checkedSession compression) :=
  SessionsSever.checkStop.bind fun _ => severs.decodeSession steadfast compression

end SourceSevers

end

end WpgRaster
