import WpgRaster.Proofs.Frame.Advance
import WpgRaster.Proofs.RunLength.Execution

/-!
# Steps that may be interrupted

A frame that is decoded with a stop is compared with the same frame that
nobody stops. As long as the stop lets every question pass, the two are
*abreast*: they have read and handed over the same (`Abreast`). When a
question is not let pass, the first one ends there and then, and the other
one goes on. Decoding only ever advances, so what was handed over up to
then stays the beginning of what is handed over in the end
(`Interrupted`).

Quiet steps keep two sessions abreast, a question to the stop may interrupt
one of them, and everything else is built from these (`Interrupted.bind`).
-/

namespace WpgRaster

/-! ## Stops that fire -/

/-- **A stop that fires**: it lets so many questions pass, and answers the
next one with its reason. -/
structure Stop.Fires (stop : Stop) (count : Nat) (reason : StopReason) : Prop where
  /-- The first questions pass. -/
  passes : ∀ asked, asked < count → stop.answer asked = none
  /-- The next one does not. -/
  fires : stop.answer count = some reason

/-- The stop that fires from a question on is one. -/
theorem Stop.fires_after (count : Nat) (reason : StopReason) :
    (Stop.after count reason).Fires count reason :=
  ⟨fun _ early => if_pos early, if_neg (Nat.lt_irrefl count)⟩

/-! ## Rows that are counted -/

section

variable {κ : Type} [RowConsumer κ]

/-- **Rows that are counted**: the assembler counts the rows handed over. -/
def Counted (start : κ) (state : RowState κ) : Prop :=
  ∃ rows, Handed start rows state.consumer ∧ state.assembler.row = rows.length

theorem Counted.advance {start : κ} {state state' : RowState κ} (counted : Counted start state)
    (advances : Advances start state state') : Counted start state' := by
  obtain ⟨rows, handed, row⟩ := counted
  obtain ⟨more, handed', row'⟩ := advances rows handed row
  exact ⟨rows ++ more, handed', row'⟩

end

/-! ## Sessions side by side -/

section

variable {σ κ : Type} [RowConsumer κ] {start : κ} {count : Nat} {reason : StopReason}

/-- **Sessions that are abreast**: they are the same but for their stops, of
which one will fire and did not yet, and the other one never does. -/
structure Abreast (start : κ) (count : Nat) (reason : StopReason)
    (session session' : Session σ κ) : Prop where
  /-- They have read the same. -/
  source : session.source = session'.source
  /-- They have handed over the same. -/
  rows : session.rows = session'.rows
  /-- The rows are counted. -/
  counted : Counted start session.rows
  /-- One stop fires. -/
  fires : session.stop.Fires count reason
  /-- It has let all questions pass up to now. -/
  early : session.stop.checks ≤ count
  /-- The other one never fires. -/
  silent : session'.stop.Silent

/-- **A session that was stopped**, while another one went on and has its
rows behind it. -/
structure LeftBehind (start : κ) (count : Nat) (pace : Session σ κ → Prop)
    (session session' : Session σ κ) : Prop where
  /-- The stop let so many questions pass, and not the next one. -/
  checks : session.stop.checks = count + 1
  /-- The questions tell the rows. -/
  paced : pace session
  /-- The rows are counted. -/
  counted : Counted start session.rows
  /-- The other session handed them over as well. -/
  passed : Advances start session.rows session'.rows

/-- **Results of which the first may be interrupted**: it agrees with the
second one and is still abreast of it, or it ends with the reason of the
stop and is left behind. Of sessions that went well something more may be
said. -/
inductive Interrupted {α : Type} (start : κ) (count : Nat) (reason : StopReason)
    (pace post : Session σ κ → Prop) :
    EStateM.Result RasterError (Session σ κ) α → EStateM.Result RasterError (Session σ κ) α → Prop
  /-- Both went well. -/
  | ok {a : α} {session session' : Session σ κ} : Abreast start count reason session session' →
    post session → Interrupted start count reason pace post (.ok a session) (.ok a session')
  /-- Both failed. -/
  | error {err : RasterError} {session session' : Session σ κ} :
    Abreast start count reason session session' →
    Interrupted start count reason pace post (.error err session) (.error err session')
  /-- The first was stopped. -/
  | stopped {session : Session σ κ} {result : EStateM.Result RasterError (Session σ κ) α} :
    LeftBehind start count pace session (behind result) →
    Interrupted start count reason pace post (.error (.stopped reason) session) result

/-- **A step that advances the rows**, whatever the stop says. -/
def Session.Moves {α : Type} (start : κ) (step : SessionM σ κ α) : Prop :=
  ∀ session, Advances start session.rows (behind (step session)).rows

/-- A quiet step does, and so does everything else in decoding. -/
theorem Session.Moves.of_quiet {α : Type} {step : SessionM σ κ α} (quiet : Quiet start step) :
    Moves start step :=
  (Course.rows start).of_quiet quiet

namespace Abreast

variable {α : Type} {session session' : Session σ κ}

/-- **A quiet step keeps sessions abreast**, and asks nothing. -/
theorem quiet (abreast : Abreast start count reason session session') {step : SessionM σ κ α}
    (quiet : Quiet start step) :
    ∃ outcome mid mid', step session = conclude outcome mid ∧ step session' = conclude outcome mid'
      ∧ Abreast start count reason mid mid' ∧ mid.stop = session.stop
      ∧ Advances start session.rows mid.rows := by
  obtain ⟨source, rows, stop⟩ := session
  obtain ⟨source', rows', stop'⟩ := session'
  obtain ⟨same, same', counted, fires, early, silent⟩ := abreast
  dsimp only at same same'
  subst same same'
  obtain ⟨outcome, mid, rows', moved, run⟩ := quiet source rows
  exact ⟨outcome, _, _, run stop, run stop',
    ⟨rfl, rfl, counted.advance moved, fires, early, silent⟩, rfl, moved⟩

/-- **Asked the stop, one session may end.** -/
theorem checkStop (abreast : Abreast start count reason session session')
    {pace : Session σ κ → Prop} (paced : pace { session with
      stop := { session.stop with checks := session.stop.checks + 1 } }) :
    Interrupted start count reason pace pace (Session.checkStop session)
      (Session.checkStop session') := by
  obtain ⟨asked, passed, silent⟩ := abreast.silent.check
  rw [Session.checkStop_eq, Session.checkStop_eq, passed]
  unfold Stop.check
  by_cases now : session.stop.checks = count
  · rw [now, abreast.fires.fires]
    refine .stopped ⟨rfl, now ▸ paced, abreast.counted, ?_⟩
    exact .of_same (by rw [abreast.rows]; rfl) (by rw [abreast.rows]; rfl)
  · have before : session.stop.checks < count := Nat.lt_of_le_of_ne abreast.early now
    rw [abreast.fires.passes _ before]
    exact .ok
      { source := abreast.source
        rows := abreast.rows
        counted := abreast.counted
        fires := ⟨abreast.fires.passes, abreast.fires.fires⟩
        early := before
        silent := silent } paced

end Abreast

namespace Interrupted

variable {α β : Type} {pace post post' : Session σ κ → Prop} {session session' : Session σ κ}

/-- **One step after another.** If the first is interrupted, then the other
session goes on without it. -/
theorem bind {step : SessionM σ κ α} {next : α → SessionM σ κ β}
    (first : Interrupted start count reason pace post (step session) (step session'))
    (second : ∀ a mid mid', Abreast start count reason mid mid' → post mid →
      Interrupted start count reason pace post' (next a mid) (next a mid'))
    (moves : ∀ a, Session.Moves start (next a)) :
    Interrupted start count reason pace post' ((step >>= next) session)
      ((step >>= next) session') := by
  generalize run : step session = result, run' : step session' = result' at first
  cases first with
  | ok abreast known =>
    rw [bind_of_ok run, bind_of_ok run']
    exact second _ _ _ abreast known
  | error abreast =>
    rw [bind_of_error run, bind_of_error run']
    exact .error abreast
  | stopped left =>
    rw [bind_of_error run]
    refine .stopped ⟨left.checks, left.paced, left.counted, left.passed.trans ?_⟩
    cases result' with
    | ok a mid =>
      rw [bind_of_ok run']
      exact moves a mid
    | error err mid =>
      rw [bind_of_error run']
      exact .refl _

/-- A quiet step comes first. -/
theorem of_quiet {step : SessionM σ κ α} {next : α → SessionM σ κ β}
    (abreast : Abreast start count reason session session') (quiet : Quiet start step)
    (second : ∀ a mid mid', step session = .ok a mid → Abreast start count reason mid mid' →
      mid.stop = session.stop → Advances start session.rows mid.rows →
      Interrupted start count reason pace post (next a mid) (next a mid')) :
    Interrupted start count reason pace post ((step >>= next) session)
      ((step >>= next) session') := by
  obtain ⟨outcome, mid, mid', run, run', abreast', stop, moved⟩ := abreast.quiet quiet
  cases outcome with
  | ok a =>
    rw [bind_of_ok run, bind_of_ok run']
    exact second a mid mid' run abreast' stop moved
  | error err =>
    rw [bind_of_error run, bind_of_error run']
    exact .error abreast'

end Interrupted

end

end WpgRaster
