import WpgRaster.Proofs.Steps

/-!
# Relations between decoders

Rows are decoded by few kinds of steps: a byte or a packed row is read, the assembler is asked
for something, the stop is asked whether to go on. Everything else says in which order these
come. So two decoders that work on different kinds of sources and consumers are related as soon
as their single steps are, if only the relation is kept in sequence. Such a relation is a
*congruence* (`Session.Congruence`), and reading all rows of a frame is related to itself by each
of them (`Session.Congruence.decodeRows`). A property of a single decoder is a congruence that
does not look at the other one.
-/

namespace WpgRaster.Session

variable {σ σ' κ κ' α β : Type}

/-! ## Steps on the source -/

/-- Steps on the source may be lifted one by one. -/
theorem onSource_bind (step : EStateM RasterError σ α) (next : α → EStateM RasterError σ β) :
    (onSource (step >>= next) : SessionM σ κ β)
      = onSource step >>= fun a => onSource (next a) := by
  funext session
  cases ran : step session.source with
  | ok a source =>
    have lifted : (onSource step : SessionM σ κ α) session = .ok a { session with source } := by
      rw [onSource_eq, ran]
    rw [bind_of_ok lifted, onSource_eq, onSource_eq, bind_of_ok ran]
  | error err source =>
    have lifted : (onSource step : SessionM σ κ α) session
        = .error err { session with source } := by
      rw [onSource_eq, ran]
    rw [bind_of_error lifted, onSource_eq, bind_of_error ran]

/-! ## Choices -/

section

variable {rel : SessionM σ κ α → SessionM σ' κ' α → Prop} {cond : Prop} [Decidable cond]

/-- A choice that is made alike. -/
theorem related_ite {step other : SessionM σ κ α} {step' other' : SessionM σ' κ' α}
    (yes : rel step step') (no : rel other other') :
    rel (if cond then step else other) (if cond then step' else other') := by
  split
  · exact yes
  · exact no

theorem related_onSource_ite {step other : EStateM RasterError σ α}
    {step' other' : EStateM RasterError σ' α} (yes : rel (onSource step) (onSource step'))
    (no : rel (onSource other) (onSource other')) :
    rel (onSource (if cond then step else other))
      (onSource (if cond then step' else other')) := by
  split
  · exact yes
  · exact no

end

variable [ByteSource σ] [ByteSource σ'] [RowConsumer κ] [RowConsumer κ']

/-! ## Congruences -/

/-- **A relation that is kept by all that tokens ask for**: it relates the same steps on two kinds
of sessions, and sequences of them. -/
structure TokenCongruence
    (rel : ∀ ⦃α : Type⦄, SessionM σ κ α → SessionM σ' κ' α → Prop) : Prop where
  /-- To answer something. -/
  pure : ∀ {α : Type} (a : α), rel (Pure.pure a) (Pure.pure a)
  /-- To fail. -/
  throw : ∀ {α : Type} (err : RasterError),
    rel (MonadExcept.throw err : SessionM σ κ α) (MonadExcept.throw err)
  /-- One step after another. -/
  bind : ∀ {α β : Type} {step : SessionM σ κ α} {step' : SessionM σ' κ' α}
    {next : α → SessionM σ κ β} {next' : α → SessionM σ' κ' β},
    rel step step' → (∀ a, rel (next a) (next' a)) → rel (step >>= next) (step' >>= next')
  /-- To read a byte. -/
  nextByte : rel (onSource Token.nextByte) (onSource Token.nextByte)
  /-- To append a byte. -/
  append : ∀ byte, rel (onRows (RowAssembler.append byte)) (onRows (RowAssembler.append byte))
  /-- To append bytes over and over. -/
  appendRepeated : ∀ bytes count, rel (onRows (RowAssembler.appendRepeated bytes count))
    (onRows (RowAssembler.appendRepeated bytes count))
  /-- To repeat rows. -/
  repeatRow : ∀ count, rel (onRows (RowAssembler.repeatRow count))
    (onRows (RowAssembler.repeatRow count))
  /-- To switch the delta mode. -/
  toggleDelta : rel
    (onRows fun (⟨asm, consumer⟩ : RowState κ) => .ok () ⟨asm.toggleDelta, consumer⟩)
    (onRows fun (⟨asm, consumer⟩ : RowState κ') => .ok () ⟨asm.toggleDelta, consumer⟩)
  /-- To ask the stop. -/
  checkStop : rel checkStop checkStop
  /-- To look at the assembler. -/
  assembler : rel assembler assembler

/-- **A relation that is kept by all that rows ask for.** -/
structure Congruence (rel : ∀ ⦃α : Type⦄, SessionM σ κ α → SessionM σ' κ' α → Prop) : Prop
    extends TokenCongruence rel where
  /-- To read a packed row. -/
  nextRow : ∀ width, rel (onSource (FrameFormat.nextRow width))
    (onSource (FrameFormat.nextRow width))
  /-- To append its bytes. -/
  appendAll : ∀ bytes, rel (onRows (RowAssembler.appendAll bytes))
    (onRows (RowAssembler.appendAll bytes))
  /-- To go by the size of the source. -/
  sized : ∀ {α : Type} (step : Nat → SessionM σ κ α) (step' : Nat → SessionM σ' κ' α),
    (∀ size, rel (step size) (step' size)) →
    rel (fun session => step (ByteSource.size session.source) session)
      (fun session => step' (ByteSource.size session.source) session)

variable {rel : ∀ ⦃α : Type⦄, SessionM σ κ α → SessionM σ' κ' α → Prop}

namespace TokenCongruence

variable (congruence : TokenCongruence rel)

include congruence

theorem onSource_bind {step : EStateM RasterError σ α} {step' : EStateM RasterError σ' α}
    {next : α → EStateM RasterError σ β} {next' : α → EStateM RasterError σ' β}
    (first : rel (onSource step) (onSource step'))
    (second : ∀ a, rel (onSource (next a)) (onSource (next' a))) :
    rel (onSource (step >>= next)) (onSource (step' >>= next')) := by
  rw [Session.onSource_bind, Session.onSource_bind]
  exact congruence.bind first second

theorem onSource_pure (a : α) : rel (onSource (Pure.pure a)) (onSource (Pure.pure a)) :=
  congruence.pure a

/-! ### Tokens -/

theorem nextBytes (count : Nat) :
    rel (onSource (Token.nextBytes count)) (onSource (Token.nextBytes count)) := by
  induction count with
  | zero => exact congruence.pure []
  | succ count ih =>
    exact congruence.onSource_bind congruence.nextByte fun _ =>
      congruence.onSource_bind ih fun _ => congruence.onSource_pure _

theorem operand : rel (onSource Token.operand) (onSource Token.operand) :=
  congruence.onSource_bind congruence.nextByte fun _ => congruence.onSource_pure _

theorem readFirst : rel (onSource Token.readFirst) (onSource Token.readFirst) := by
  have operand := congruence.operand
  refine congruence.onSource_bind operand fun control => ?_
  refine related_onSource_ite (related_onSource_ite ?_ ?_) (related_onSource_ite ?_ ?_)
  · exact congruence.onSource_bind operand fun _ => congruence.onSource_pure _
  · exact congruence.onSource_pure _
  · exact congruence.onSource_bind operand fun _ => congruence.onSource_pure _
  · exact congruence.onSource_bind congruence.nextByte fun _ => congruence.onSource_pure _

theorem readSecond (reg : SampleRegister) :
    rel (onSource (Token.readSecond reg)) (onSource (Token.readSecond reg)) := by
  have counted : ∀ {answer : Nat → Token × SampleRegister},
      rel (onSource (Token.operand >>= fun n => Pure.pure (answer n)))
        (onSource (Token.operand >>= fun n => Pure.pure (answer n))) :=
    congruence.onSource_bind congruence.operand fun _ => congruence.onSource_pure _
  refine congruence.onSource_bind congruence.operand fun control => ?_
  dsimp only
  split
  · refine congruence.onSource_bind congruence.operand fun size => ?_
    exact related_onSource_ite (congruence.onSource_pure _) (congruence.throw _)
  · exact congruence.onSource_pure _
  · exact counted
  · exact counted
  · exact counted
  · exact counted
  · refine related_onSource_ite (congruence.onSource_pure _) ?_
    exact congruence.onSource_bind (congruence.nextBytes reg.size) fun _ =>
      congruence.onSource_pure _

theorem read (generation : Generation) (reg : SampleRegister) :
    rel (onSource (Token.read generation reg)) (onSource (Token.read generation reg)) := by
  cases generation with
  | first =>
    exact congruence.onSource_bind congruence.readFirst fun _ => congruence.onSource_pure _
  | second => exact congruence.readSecond reg

theorem copy (count : Nat) : rel (RunLength.copy count) (RunLength.copy count) := by
  induction count with
  | zero => exact congruence.pure ()
  | succ count ih =>
    exact congruence.bind congruence.nextByte fun byte =>
      congruence.bind (congruence.append byte) fun _ => ih

theorem perform (token : Token) (reg : SampleRegister) :
    rel (RunLength.perform token reg) (RunLength.perform token reg) := by
  unfold RunLength.perform
  cases token with
  | copy count => exact congruence.bind (congruence.copy count) fun _ => congruence.pure reg
  | fill value count =>
    exact congruence.bind (congruence.appendRepeated [value] count) fun _ => congruence.pure reg
  | repeatSample count =>
    exact congruence.bind (congruence.appendRepeated reg.sample count) fun _ => congruence.pure reg
  | repeatRow count =>
    exact congruence.bind (congruence.repeatRow count) fun _ => congruence.pure reg
  | setSampleSize size => exact congruence.pure _
  | toggleDelta => exact congruence.bind congruence.toggleDelta fun _ => congruence.pure reg

/-- **Carrying out a token is related to itself.** -/
theorem step (generation : Generation) (reg : SampleRegister) :
    rel (RunLength.step generation reg) (RunLength.step generation reg) := by
  refine congruence.bind congruence.assembler fun before => ?_
  refine congruence.bind (congruence.read generation reg) fun (token, reg) => ?_
  refine congruence.bind (congruence.perform token reg) fun reg => ?_
  refine congruence.bind congruence.assembler fun behind => ?_
  exact related_ite (congruence.bind congruence.checkStop fun _ => congruence.pure reg)
    (congruence.pure reg)

theorem run (generation : Generation) (fuel : Nat) (reg : SampleRegister) :
    rel (RunLength.run generation fuel reg) (RunLength.run generation fuel reg) := by
  induction fuel generalizing reg with
  | zero => exact congruence.throw _
  | succ fuel ih =>
    refine congruence.bind congruence.assembler fun asm => ?_
    exact related_ite (congruence.pure ()) (congruence.bind (congruence.step generation reg) ih)

end TokenCongruence

namespace Congruence

variable (congruence : Congruence rel)

include congruence

theorem decode (generation : Generation) :
    rel (RunLength.decode generation) (RunLength.decode generation) :=
  congruence.sized (fun size => RunLength.run generation (size + 1) {})
    (fun size => RunLength.run generation (size + 1) {})
    fun size => congruence.run generation (size + 1) {}

theorem decodePacked (width count : Nat) :
    rel (FrameFormat.decodePacked width count) (FrameFormat.decodePacked width count) := by
  induction count with
  | zero => exact congruence.pure ()
  | succ count ih =>
    refine congruence.bind (congruence.nextRow width) fun bytes => ?_
    refine congruence.bind (congruence.appendAll bytes.toList) fun _ => ?_
    refine related_ite (congruence.bind (congruence.throw _) fun _ => ?_) ?_
    all_goals exact congruence.bind congruence.checkStop fun _ => ih

/-- **Reading all rows of a frame is related to itself.** -/
theorem decodeRows (compression : Compression) :
    rel (FrameFormat.decodeRows compression) (FrameFormat.decodeRows compression) := by
  cases compression with
  | none =>
    exact congruence.bind congruence.assembler fun asm =>
      congruence.decodePacked asm.width (asm.rows - asm.row)
  | first => exact congruence.decode .first
  | second => exact congruence.decode .second

end Congruence

end WpgRaster.Session

namespace WpgRaster

/-! ## The end of a frame -/

/-- A result that leaves a state behind. -/
def conclude {ε σ α : Type} : Except ε α → σ → EStateM.Result ε σ α
  | .ok a, s => .ok a s
  | .error err, s => .error err s

namespace FrameFormat

variable {σ σ' κ κ' : Type} [RowConsumer κ] [RowConsumer κ']

/-- What is left to do once rows were read, with so many of them complete. -/
def endRows (rowsDecoded : Nat) : Except RasterError Unit → SessionM σ κ Outcome
  | .ok () | .error .rowsExhausted => pure .complete
  | .error .streamTruncated => do
    let _ ← Session.onRows RowAssembler.fillRemaining
    return .truncated rowsDecoded
  | .error err =>
    if err.abortsFrame then do
      let _ ← Session.onRows RowAssembler.fillRemaining
      throw err
    else throw err

/-- **A frame is read and then brought to its end.** -/
theorem decodeSession_eq [ByteSource σ] {compression : Compression}
    {outcome : Except RasterError Unit} {session mid : Session σ κ}
    (rows : decodeRows compression session = conclude outcome mid) :
    decodeSession compression session = endRows mid.rows.assembler.row outcome mid := by
  unfold decodeSession
  rw [rows]
  cases outcome with
  | ok _ => rfl
  | error err =>
    cases err with
    | streamTruncated => exact bind_of_ok mid.assembler_eq
    | _ => rfl

/-- **The same outcome of the rows ends a frame alike**, if filling up does the same. -/
theorem endRows_related (rel : SessionM σ κ Outcome → SessionM σ' κ' Outcome → Prop)
    (pure : ∀ outcome, rel (pure outcome) (pure outcome))
    (throw : ∀ err, rel (throw err) (throw err))
    (fill : ∀ {next next'}, rel next next' →
      rel (Session.onRows RowAssembler.fillRemaining >>= fun _ => next)
        (Session.onRows RowAssembler.fillRemaining >>= fun _ => next'))
    (rowsDecoded : Nat) (outcome : Except RasterError Unit) :
    rel (endRows rowsDecoded outcome) (endRows rowsDecoded outcome) := by
  unfold endRows
  split
  · exact pure _
  · exact pure _
  · exact fill (pure _)
  · split
    · exact fill (throw _)
    · exact throw _

end FrameFormat

end WpgRaster
