import WpgRaster.Proofs.Container.Progress
import WpgRaster.Proofs.Frame.Congruence
import WpgRaster.RunLength.Decode

/-!
# Loops come to an end

Records and tokens are read in loops that nothing bounds but what is read. A `Loop` says so: it
takes one turn after another until a turn ends it, fails, or leaves no reason for another one.
The walks and decoders of this library count their turns down instead. That bound is never met:
they do what the loop does, which therefore ends (`Walk.exists_loop_run`,
`RunLength.exists_loop_decode`).

What carries the argument is what a single turn does. A record that does not end the walk leads
to a larger offset (`Walk.step_ok_some`), and a token consumes a byte at least, even if it emits
nothing (`RunLength.step_consumes`). Both hold on all sources whose reads go forward, so they hold
of files that are broken from some byte on as well (`loopsEnd`).
-/

namespace WpgRaster

section

variable {ε σ α : Type}

/-- **A loop without a bound** and how many turns it takes. A turn works on a value, and answers
the value of the next turn unless it ends the loop. -/
inductive Loop (more : α → σ → Prop) (turn : α → EStateM ε σ (Option α)) :
    (turns : Nat) → α → σ → EStateM.Result ε σ Unit → Prop
  /-- There is no reason for a turn. -/
  | idle {a : α} {s : σ} : ¬ more a s → Loop more turn 0 a s (.ok () s)
  /-- A turn ends the loop. -/
  | left {a : α} {s s' : σ} : more a s → turn a s = .ok none s' → Loop more turn 1 a s (.ok () s')
  /-- A turn fails. -/
  | failed {a : α} {s s' : σ} {err : ε} : more a s → turn a s = .error err s' →
    Loop more turn 1 a s (.error err s')
  /-- The loop goes on. -/
  | again {turns : Nat} {a b : α} {s s' : σ} {result : EStateM.Result ε σ Unit} : more a s →
    turn a s = .ok (some b) s' → Loop more turn turns b s' result →
    Loop more turn (turns + 1) a s result

/-- **A loop ends in one way only.** -/
theorem Loop.unique {more : α → σ → Prop} {turn : α → EStateM ε σ (Option α)} {turns turns' : Nat}
    {a : α} {s : σ} {result result' : EStateM.Result ε σ Unit}
    (loop : Loop more turn turns a s result) (loop' : Loop more turn turns' a s result') :
    turns = turns' ∧ result = result' := by
  induction loop generalizing turns' with
  | idle done =>
    cases loop' with
    | idle => exact ⟨rfl, rfl⟩
    | left go => exact absurd go done
    | failed go => exact absurd go done
    | again go => exact absurd go done
  | left go turned =>
    cases loop' with
    | idle done => exact absurd go done
    | left _ turned' => cases turned.symm.trans turned'; exact ⟨rfl, rfl⟩
    | failed _ turned' => cases turned.symm.trans turned'
    | again _ turned' => cases turned.symm.trans turned'
  | failed go turned =>
    cases loop' with
    | idle done => exact absurd go done
    | left _ turned' => cases turned.symm.trans turned'
    | failed _ turned' => cases turned.symm.trans turned'; exact ⟨rfl, rfl⟩
    | again _ turned' => cases turned.symm.trans turned'
  | again go turned _ ih =>
    cases loop' with
    | idle done => exact absurd go done
    | left _ turned' => cases turned.symm.trans turned'
    | failed _ turned' => cases turned.symm.trans turned'
    | again _ turned' loop' =>
      cases turned.symm.trans turned'
      obtain ⟨rfl, rfl⟩ := ih loop'
      exact ⟨rfl, rfl⟩

/-- So what it comes to is all that it comes to. -/
theorem Loop.iff {more : α → σ → Prop} {turn : α → EStateM ε σ (Option α)} {turns turns' : Nat}
    {a : α} {s : σ} {result result' : EStateM.Result ε σ Unit}
    (loop : Loop more turn turns a s result) :
    Loop more turn turns' a s result' ↔ turns' = turns ∧ result' = result := by
  refine ⟨fun loop' => loop'.unique loop, ?_⟩
  rintro ⟨rfl, rfl⟩
  exact loop

end

variable {σ : Type} [ByteSource σ]

/-! ## Walks -/

namespace Walk

/-- The walk over the records of a file, as a loop. -/
def Loops (plan : WalkPlan) (turns offset : Nat) (walk : Walk σ)
    (result : EStateM.Result WpgError (Walk σ) Unit) : Prop :=
  Loop (fun offset _ => offset < plan.fileSize) (step plan) turns offset walk result

variable [ForwardSource σ]

/-- A walk that may come by as many records as there are bytes left is the loop. -/
theorem exists_loop_steps (plan : WalkPlan) (fuel offset : Nat) (walk : Walk σ)
    (enough : plan.fileSize - offset ≤ fuel) :
    ∃ turns ≤ plan.fileSize - offset,
      Loops plan turns offset walk (steps plan fuel offset walk) := by
  -- by induction on the fuel; an offset that grows uses up a byte of what is left
  induction fuel generalizing offset walk with
  | zero =>
    have beyond : plan.fileSize ≤ offset := by omega
    exact ⟨0, Nat.zero_le _, .idle (Nat.not_lt.mpr beyond)⟩
  | succ fuel ih =>
    unfold steps
    by_cases beyond : plan.fileSize ≤ offset
    · rw [if_pos beyond]
      exact ⟨0, Nat.zero_le _, .idle (Nat.not_lt.mpr beyond)⟩
    · rw [if_neg beyond]
      have inside : offset < plan.fileSize := Nat.lt_of_not_le beyond
      cases stepped : step plan offset walk with
      | error err walk' =>
        rw [bind_of_error stepped]
        exact ⟨1, by omega, .failed inside stepped⟩
      | ok next? walk' =>
        rw [bind_of_ok stepped]
        cases next? with
        | none => exact ⟨1, by omega, .left inside stepped⟩
        | some next =>
          have forward := (step_ok_some stepped).1
          obtain ⟨turns, few, loop⟩ := ih next walk' (by omega)
          exact ⟨turns + 1, by omega, .again inside stepped loop⟩

/-- **A walk is the loop over the records**, which comes by no more of them than there are bytes
behind the first offset. -/
theorem exists_loop_run (plan : WalkPlan) (walk : Walk σ) :
    ∃ turns ≤ plan.fileSize - plan.start, Loops plan turns plan.start walk (run plan walk) :=
  exists_loop_steps plan _ plan.start walk (Nat.le_refl _)

end Walk

/-! ## Tokens -/

namespace RunLength

variable {κ : Type}

/-- Sessions whose source was read from. -/
abbrev SourceOnward (session session' : Session σ κ) : Prop :=
  Onward session.source session'.source

instance : IsPreorder (Session σ κ) SourceOnward where
  refl session := .refl session.source
  trans _ _ _ := .trans

theorem onRows_onward {α : Type} (op : RowM κ α) :
    Upholds SourceOnward (Session.onRows op : SessionM σ κ α) := by
  intro session
  rw [Session.onRows_eq]
  split <;> exact .refl session.source

theorem checkStop_onward : Upholds SourceOnward (Session.checkStop : SessionM σ κ Unit) := by
  intro session
  rw [Session.checkStop_eq]
  split <;> exact .refl session.source

theorem nextByte_onward [ForwardSource σ] :
    Upholds SourceOnward (Session.onSource Token.nextByte : SessionM σ κ UInt8) := by
  intro session
  have read := Token.nextByte_onward session.source
  rw [Session.onSource_eq]
  generalize Token.nextByte session.source = result at read ⊢
  cases result <;> exact read

variable [RowConsumer κ]

/-- **To read forward is a congruence**, of which only one side is looked at. -/
theorem onward_congruence [ForwardSource σ] : Session.TokenCongruence
    fun ⦃α⦄ (step : SessionM σ κ α) (_ : SessionM σ κ α) => Upholds SourceOnward step where
  pure := .pure
  throw := .throw
  bind := .bind
  nextByte := nextByte_onward
  append byte := onRows_onward (RowAssembler.append byte)
  appendRepeated bytes count := onRows_onward (RowAssembler.appendRepeated bytes count)
  repeatRow count := onRows_onward (RowAssembler.repeatRow count)
  toggleDelta := onRows_onward _
  checkStop := checkStop_onward
  assembler session := .refl session.source

/-- The decoding of a compressed raster, as a loop. -/
def Loops (generation : Generation) (turns : Nat) (reg : SampleRegister) (session : Session σ κ)
    (result : EStateM.Result RasterError (Session σ κ) Unit) : Prop :=
  Loop (fun _ (session : Session σ κ) => session.rows.assembler.isComplete = false)
    (fun reg => do return some (← step generation reg)) turns reg session result

variable [ForwardSource σ]

/-- **A token consumes a byte at least**, also one that emits nothing. -/
theorem step_consumes {generation : Generation} {reg reg' : SampleRegister}
    {session session' : Session σ κ} (ran : step generation reg session = .ok reg' session') :
    Consumed session.source session'.source := by
  have congruence := onward_congruence (σ := σ) (κ := κ)
  obtain ⟨before, _, ⟨⟩, ran⟩ := exists_of_bind_ok ran
  obtain ⟨⟨token, loaded⟩, mid, read, ran⟩ := exists_of_bind_ok ran
  have consumed : Consumed session.source mid.source := by
    rw [Session.onSource_eq] at read
    split at read
    · next taken =>
      cases read
      exact Token.read_consumes taken
    · cases read
  have onward : ∀ {step : SessionM σ κ SampleRegister}, Upholds SourceOnward step →
      step mid = .ok reg' session' → Onward mid.source session'.source :=
    fun upholds ran => upholds.of_ok ran
  refine consumed.trans (onward ?_ ran)
  refine (congruence.perform token loaded).bind fun reg => congruence.assembler.bind fun asm => ?_
  split
  · exact congruence.checkStop.bind fun _ => .pure reg
  · exact .pure reg

/-- Decoding with as much fuel as there are bytes left, and some for the look at what is not
there, is the loop. -/
theorem exists_loop_run (generation : Generation) (fuel : Nat) (reg : SampleRegister)
    (session : Session σ κ)
    (enough : ByteSource.size session.source - ByteSource.position session.source < fuel) :
    ∃ turns ≤ ByteSource.size session.source - ByteSource.position session.source + 1,
      Loops generation turns reg session (run generation fuel reg session) := by
  -- by induction on the fuel; a token uses up a byte of what is left
  induction fuel generalizing reg session with
  | zero => exact absurd enough (Nat.not_lt_zero _)
  | succ fuel ih =>
    unfold run
    rw [bind_of_ok session.assembler_eq]
    cases complete : session.rows.assembler.isComplete with
    | true => exact ⟨0, Nat.zero_le _, .idle (by rw [complete]; nofun)⟩
    | false =>
      rw [if_neg Bool.false_ne_true]
      cases stepped : step generation reg session with
      | error err session' =>
        rw [bind_of_error stepped]
        exact ⟨1, by omega, .failed complete (bind_of_error stepped)⟩
      | ok reg' session' =>
        rw [bind_of_ok stepped]
        have consumed := step_consumes stepped
        have size := consumed.size
        have lt := consumed.lt
        have le := consumed.le
        obtain ⟨turns, few, loop⟩ := ih reg' session' (by omega)
        exact ⟨turns + 1, by omega, .again complete (bind_of_ok stepped) loop⟩

/-- **A compressed raster is decoded by the loop over its tokens**, which are no more than there
are bytes left, but for one that finds the source ended. -/
theorem exists_loop_decode (generation : Generation) (session : Session σ κ) :
    ∃ turns ≤ ByteSource.size session.source - ByteSource.position session.source + 1,
      Loops generation turns {} session (decode generation session) :=
  exists_loop_run generation _ {} session (by omega)

end RunLength

/-! ## All loops -/

/-- **A kind of source on which walks and rasters come to an end**, whatever its bytes are and
wherever it stands. -/
structure LoopsEnd (σ : Type) [ByteSource σ] : Prop where
  /-- A record that does not end the walk leads to a larger offset, whatever length it claims. -/
  offsets : ∀ (plan : WalkPlan) (offset next : Nat) (walk walk' : Walk σ),
    Walk.step plan offset walk = .ok (some next) walk' → offset < next
  /-- A walk is what the loop over the records comes to, and that comes by no more of them than
  the file has bytes. -/
  walks : ∀ (plan : WalkPlan) (walk : Walk σ), ∃ turns ≤ plan.fileSize, ∀ turns' result,
    Walk.Loops plan turns' plan.start walk result ↔ turns' = turns ∧ result = Walk.run plan walk
  /-- A token that does not end the decoding of a raster consumes a byte. -/
  tokens : ∀ {κ : Type} [RowConsumer κ] (generation : Generation) (reg reg' : SampleRegister)
    (session session' : Session σ κ), RunLength.step generation reg session = .ok reg' session' →
    ByteSource.position session.source < ByteSource.position session'.source
      ∧ ByteSource.position session'.source ≤ ByteSource.size session.source
  /-- A raster is what the loop over its tokens comes to, and that takes a turn for each byte that
  is left at most, and one that finds nothing left. -/
  rasters : ∀ {κ : Type} [RowConsumer κ] (generation : Generation) (session : Session σ κ),
    ∃ turns ≤ ByteSource.size session.source - ByteSource.position session.source + 1,
      ∀ turns' result, RunLength.Loops generation turns' {} session result
        ↔ turns' = turns ∧ result = RunLength.decode generation session

theorem LoopsEnd.of_forward (σ : Type) [ByteSource σ] [ForwardSource σ] : LoopsEnd σ where
  offsets _ _ _ _ _ stepped := (Walk.step_ok_some stepped).1
  walks plan walk := by
    obtain ⟨turns, few, loop⟩ := Walk.exists_loop_run plan walk
    exact ⟨turns, Nat.le_trans few (Nat.sub_le _ _), fun _ _ => Loop.iff loop⟩
  tokens _ _ _ _ _ stepped :=
    ⟨(RunLength.step_consumes stepped).lt, (RunLength.step_consumes stepped).le⟩
  rasters generation session := by
    obtain ⟨turns, few, loop⟩ := RunLength.exists_loop_decode generation session
    exact ⟨turns, few, fun _ _ => Loop.iff loop⟩

/-- **All loops end**: over bytes in memory, over streams of any buffering, and over bytes that
are broken from some one on, whose reads answer zeros there without moving. -/
theorem loopsEnd : LoopsEnd Cursor ∧ LoopsEnd ByteStream ∧ LoopsEnd FaultyCursor :=
  ⟨.of_forward Cursor, .of_forward ByteStream, .of_forward FaultyCursor⟩

end WpgRaster
