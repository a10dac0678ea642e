import WpgRaster.Frame.Decode

/-!
# Steps in sequence

Decoding is written as steps that change a state and may fail. What a
sequence of two steps does is known once it is known what the first one
does; the same holds of a step that is lifted to a session, of a frame
whose rows are read, and of a frame that is set up. These are the rules
that all other proofs about steps are built from.
-/

namespace WpgRaster

/-- The state behind a result, good or bad. -/
def behind {ε σ α : Type} : EStateM.Result ε σ α → σ
  | .ok _ s => s
  | .error _ s => s

section

variable {ε σ α β : Type} {step : EStateM ε σ α} {next : α → EStateM ε σ β} {s s' : σ}

/-- After a step that went well comes the next one. -/
theorem bind_of_ok {a : α} (first : step s = .ok a s') : (step >>= next) s = next a s' := by
  show EStateM.bind step next s = next a s'
  unfold EStateM.bind
  rw [first]

/-- After a step that failed comes nothing. -/
theorem bind_of_error {err : ε} (first : step s = .error err s') :
    (step >>= next) s = .error err s' := by
  show EStateM.bind step next s = .error err s'
  unfold EStateM.bind
  rw [first]

/-- Only the first step sees the state, and what comes behind it sees its result. -/
theorem bind_congr_left {step' : EStateM ε σ α} {t : σ} (same : step s = step' t) :
    (step >>= next) s = (step' >>= next) t := by
  show EStateM.bind step next s = EStateM.bind step' next t
  unfold EStateM.bind
  rw [same]

/-- An answer made of another one leaves the same behind. -/
theorem behind_bind_pure (step : EStateM ε σ α) (b : α → β) (s : σ) :
    behind ((step >>= fun a => pure (b a)) s) = behind (step s) := by
  cases ran : step s with
  | ok a s' => rw [bind_of_ok ran]; rfl
  | error err s' => rw [bind_of_error ran]; rfl

/-- If two steps in sequence went well, then so did each of them. -/
theorem exists_of_bind_ok {b : β} {s'' : σ} (ran : (step >>= next) s = .ok b s'') :
    ∃ a s', step s = .ok a s' ∧ next a s' = .ok b s'' := by
  cases first : step s with
  | ok a s' =>
    rw [bind_of_ok first] at ran
    exact ⟨a, s', rfl, ran⟩
  | error err s' =>
    rw [bind_of_error first] at ran
    cases ran

/-- Results in sequence went well if each of them did. -/
theorem exists_of_except_bind {result : Except ε α} {next : α → Except ε β} {b : β}
    (ran : (result >>= next) = .ok b) : ∃ a, result = .ok a ∧ next a = .ok b := by
  cases result with
  | ok a => exact ⟨a, rfl, ran⟩
  | error err => cases ran

/-- The first of them may be one or another. -/
theorem exists_of_except_ite_bind {cond : Prop} [Decidable cond] {result result' : Except ε α}
    {next : α → Except ε β} {b : β}
    (ran : (if cond then result >>= next else result' >>= next) = .ok b) :
    ∃ a, (if cond then result else result') = .ok a ∧ next a = .ok b := by
  by_cases holds : cond
  · rw [if_pos holds] at ran ⊢
    exact exists_of_except_bind ran
  · rw [if_neg holds] at ran ⊢
    exact exists_of_except_bind ran

/-- What comes behind one or the other goes on with what there was. -/
theorem except_ite_bind {cond : Prop} [Decidable cond] {result result' : Except ε α}
    {next : α → Except ε β} {a : α} (ran : (if cond then result else result') = .ok a) :
    (if cond then result >>= next else result' >>= next) = next a := by
  by_cases holds : cond
  · rw [if_pos holds] at ran ⊢
    rw [ran]
    rfl
  · rw [if_neg holds] at ran ⊢
    rw [ran]
    rfl

/-- Results that are guarded went well if nothing was wrong with them. -/
theorem of_except_guard {wrong : Prop} [Decidable wrong] {err : ε}
    {next : PUnit → Except ε β} {b : β}
    (ran : (if wrong then throw err >>= next else next ()) = .ok b) :
    ¬ wrong ∧ next () = .ok b := by
  by_cases failed : wrong
  · rw [if_pos failed] at ran
    cases ran
  · rw [if_neg failed] at ran
    exact ⟨failed, ran⟩

/-- A result is looked at before anything else is done. -/
theorem ofExcept_bind (result : Except ε α) (next : α → EStateM ε σ β) (s : σ) :
    (ofExcept result >>= next) s = match result with
      | .ok a => next a s
      | .error err => .error err s := by
  cases result <;> rfl

/-- A step that cannot fail. -/
theorem modifyGet_of_eq {f : σ → α × σ} {a : α} (ran : f s = (a, s')) :
    (modifyGet f : EStateM ε σ α) s = .ok a s' := by
  show (match f s with | (a, s') => EStateM.Result.ok a s') = _
  rw [ran]

end

namespace Session

variable {σ κ α : Type}

/-- A step on the source leaves rows and stop alone. -/
theorem onSource_eq (step : EStateM RasterError σ α) (session : Session σ κ) :
    onSource step session = match step session.source with
      | .ok a source => .ok a { session with source }
      | .error err source => .error err { session with source } := rfl

/-- A step on the rows leaves source and stop alone. -/
theorem onRows_eq (step : RowM κ α) (session : Session σ κ) :
    onRows step session = match step session.rows with
      | .ok a rows => .ok a { session with rows }
      | .error err rows => .error err { session with rows } := rfl

/-- Asking the stop leaves source and rows alone. -/
theorem checkStop_eq (session : Session σ κ) :
    checkStop session = match Stop.check session.stop with
      | .ok () stop => .ok () { session with stop }
      | .error err stop => .error err { session with stop } := rfl

section

variable {op : RowM κ α} {rows rows' : RowState κ} {a : α} {err : RasterError} {stop stop' : Stop}

/-- A step on the rows that went well. -/
theorem onRows_of_ok (ran : op rows = .ok a rows') (source : σ) (stop : Stop) :
    onRows op ⟨source, rows, stop⟩ = .ok a ⟨source, rows', stop⟩ := by
  rw [onRows_eq, ran]

/-- One that failed. -/
theorem onRows_of_error (ran : op rows = .error err rows') (source : σ) (stop : Stop) :
    onRows op ⟨source, rows, stop⟩ = .error err ⟨source, rows', stop⟩ := by
  rw [onRows_eq, ran]

/-- A question that let the step pass. -/
theorem checkStop_of_ok (asked : Stop.check stop = .ok () stop') (source : σ)
    (rows : RowState κ) :
    checkStop ⟨source, rows, stop⟩ = .ok () ⟨source, rows, stop'⟩ := by
  rw [checkStop_eq, asked]

/-- One that did not. -/
theorem checkStop_of_error (asked : Stop.check stop = .error err stop') (source : σ)
    (rows : RowState κ) :
    checkStop ⟨source, rows, stop⟩ = .error err ⟨source, rows, stop'⟩ := by
  rw [checkStop_eq, asked]

end

/-- Looking at the assembler changes nothing. -/
theorem assembler_eq (session : Session σ κ) :
    assembler session = .ok session.rows.assembler session := rfl

end Session

/-! ## Frames -/

namespace FrameFormat

section

variable {σ κ : Type} [ByteSource σ] [RowConsumer κ] {compression : Compression}
  {session mid : Session σ κ}

/-- What is done once a frame is set up: the stop is asked for the first
time, and then the rows are decoded. -/
def checkedSession (compression : Compression) : SessionM σ κ Outcome := do
  Session.checkStop
  decodeSession compression

/-- All rows were read. -/
theorem decodeSession_of_ok (rows : decodeRows compression session = .ok () mid) :
    decodeSession compression session = .ok .complete mid := by
  unfold decodeSession
  rw [rows]

/-- So they were if there is no room for more. -/
theorem decodeSession_of_rowsExhausted
    (rows : decodeRows compression session = .error .rowsExhausted mid) :
    decodeSession compression session = .ok .complete mid := by
  unfold decodeSession
  rw [rows]

/-- The source ended before. -/
theorem decodeSession_of_streamTruncated
    (rows : decodeRows compression session = .error .streamTruncated mid) :
    decodeSession compression session
      = (do
          let _ ← Session.onRows RowAssembler.fillRemaining
          return .truncated mid.rows.assembler.row : SessionM σ κ Outcome) mid := by
  unfold decodeSession
  rw [rows]
  exact bind_of_ok mid.assembler_eq

/-- Any other error. -/
theorem decodeSession_of_error {err : RasterError}
    (rows : decodeRows compression session = .error err mid) (more : err ≠ .rowsExhausted)
    (early : err ≠ .streamTruncated) :
    decodeSession compression session
      = if err.abortsFrame then
          (do
            let _ ← Session.onRows RowAssembler.fillRemaining
            throw err : SessionM σ κ Outcome) mid
        else .error err mid := by
  unfold decodeSession
  rw [rows]
  split
  · next same => cases same
  · next same => exact absurd (EStateM.Result.error.inj same).1 more
  · next same => exact absurd (EStateM.Result.error.inj same).1 early
  · next same =>
    cases same
    rfl

end

variable {σ κ : Type} [ByteSource σ] [RowSink κ] {format : FrameFormat} {sink : κ}
  {rows : RowState (Unpacker κ)}

/-- Nothing is decoded if a frame cannot be set up. -/
theorem decode_of_error {err : RasterError} (failed : format.setUp sink = .error err)
    (source : σ) (stop : Stop) :
    format.decode source sink stop
      = { result := .error err, source, sink, stop, clamped := 0 } := by
  unfold decode
  rw [failed]

/-- What is decoded once a frame is set up. -/
theorem decode_of_ok (ready : format.setUp sink = .ok rows) (source : σ) (stop : Stop) :
    format.decode source sink stop =
      match checkedSession format.compression { source, rows, stop } with
      | .ok outcome session => decode.finish (.ok outcome) session
      | .error err session => decode.finish (.error err) session := by
  cases ran : checkedSession format.compression
      ({ source, rows, stop } : Session σ (Unpacker κ)) with
  | ok outcome session =>
    unfold checkedSession at ran
    unfold decode
    rw [ready]
    dsimp only
    rw [ran]
  | error err session =>
    unfold checkedSession at ran
    unfold decode
    rw [ready]
    dsimp only
    rw [ran]

end FrameFormat

end WpgRaster
