import WpgRaster.Proofs.Steps

/-!
# Wary steps

The definitions that frames are decoded with have values everywhere: a byte that is not there
is zero, a byte that is stored behind the end of a row is dropped, a number is as large as it has
to be. A program has no such values. It can only go on if what it reaches for is there.

A *wary* step looks before it reaches for something. Apart from the errors of other steps it has
one of its own, `none`, which says that something was out of reach. It *agrees* with a step
(`Agrees`) if it does what the step does, and so finds all that it reaches for.
-/

namespace WpgRaster

/-- A step that may find something out of its reach. -/
abbrev Wary (ε σ α : Type) := EStateM (Option ε) σ α

namespace Wary

variable {ε σ α β : Type}

/-- A condition for going on. -/
def require (held : Prop) [Decidable held] : Wary ε σ Unit :=
  if held then pure () else throw none

/-- What has to be there. -/
def found : Option α → Wary ε σ α
  | some a => pure a
  | none => throw none

/-- A step that reaches for nothing that might not be there. -/
def lift (step : EStateM ε σ α) : Wary ε σ α := step.adaptExcept some

section

variable {step : EStateM ε σ α} {s s' : σ}

theorem lift_of_ok {a : α} (ran : step s = .ok a s') : lift step s = .ok a s' := by
  unfold lift EStateM.adaptExcept
  rw [ran]

theorem lift_of_error {err : ε} (failed : step s = .error err s') :
    lift step s = .error (some err) s' := by
  unfold lift EStateM.adaptExcept
  rw [failed]

end

/-- **A wary step agrees with a step**: nothing is out of its reach, and it does the same. -/
def Agrees (wary : Wary ε σ α) (step : EStateM ε σ α) (s : σ) : Prop := wary s = lift step s

namespace Agrees

variable {wary : Wary ε σ α} {step : EStateM ε σ α} {s s' : σ}

theorem lift (step : EStateM ε σ α) (s : σ) : Agrees (lift step) step s := rfl

theorem pure (a : α) (s : σ) : Agrees (Pure.pure a) (Pure.pure a : EStateM ε σ α) s := rfl

theorem throw (err : ε) (s : σ) :
    Agrees (MonadExcept.throw (some err)) (MonadExcept.throw err : EStateM ε σ α) s := rfl

/-- It goes well if the step does. -/
theorem of_ok (agrees : Agrees wary step s) {a : α} (ran : step s = .ok a s') :
    wary s = .ok a s' := agrees.trans (lift_of_ok ran)

/-- It fails as the step does. -/
theorem of_error (agrees : Agrees wary step s) {err : ε} (failed : step s = .error err s') :
    wary s = .error (some err) s' := agrees.trans (lift_of_error failed)

/-- Both go well and end alike. -/
theorem of_eq_ok {a : α} (ran : step s = .ok a s') (wary_ran : wary s = .ok a s') :
    Agrees wary step s := wary_ran.trans (lift_of_ok ran).symm

/-- Both fail, and for the same reason. -/
theorem of_eq_error {err : ε} (failed : step s = .error err s')
    (wary_failed : wary s = .error (some err) s') : Agrees wary step s :=
  wary_failed.trans (lift_of_error failed).symm

/-- Steps that come down to others agree if those do. -/
theorem of_eq {wary' : Wary ε σ α} {step' : EStateM ε σ α} (wary_eq : wary s = wary' s')
    (step_eq : step s = step' s') (agrees : Agrees wary' step' s') : Agrees wary step s := by
  unfold Agrees Wary.lift EStateM.adaptExcept at agrees ⊢
  rw [wary_eq, step_eq, agrees]

/-- **Steps in sequence agree** if each does where the one before has led. -/
theorem bind {waryNext : α → Wary ε σ β} {next : α → EStateM ε σ β}
    (first : Agrees wary step s)
    (second : ∀ a mid, step s = .ok a mid → Agrees (waryNext a) (next a) mid) :
    Agrees (wary >>= waryNext) (step >>= next) s := by
  cases ran : step s with
  | ok a mid =>
    have later := second a mid ran
    unfold Agrees Wary.lift EStateM.adaptExcept at later ⊢
    rw [bind_of_ok (first.of_ok ran), bind_of_ok ran, later]
  | error err mid =>
    unfold Agrees Wary.lift EStateM.adaptExcept
    rw [bind_of_error (first.of_error ran), bind_of_error ran]

/-- A condition that holds is no hindrance. -/
theorem require_bind {held : Prop} [Decidable held] (holds : held) {next : Unit → Wary ε σ α}
    (rest : Agrees (next ()) step s) : Agrees (require held >>= next) step s := by
  unfold require
  rw [if_pos holds]
  exact rest

/-- A choice that both make. -/
theorem ite {cond : Prop} [Decidable cond] {wary' : Wary ε σ α} {step' : EStateM ε σ α}
    (holds : cond → Agrees wary step s) (fails : ¬ cond → Agrees wary' step' s) :
    Agrees (if cond then wary else wary') (if cond then step else step') s := by
  by_cases which : cond
  · rw [if_pos which, if_pos which]
    exact holds which
  · rw [if_neg which, if_neg which]
    exact fails which

end Agrees

/-! ## In a session -/

section

variable {κ : Type} {session : Session σ κ}

/-- A wary step that concerns the rows. -/
def onRows (wary : Wary RasterError (RowState κ) α) : Wary RasterError (Session σ κ) α :=
  fun ⟨source, rows, stop⟩ =>
    match wary rows with
    | .ok a rows => .ok a ⟨source, rows, stop⟩
    | .error err rows => .error err ⟨source, rows, stop⟩

/-- It agrees with a step on the rows if it agrees on them. -/
theorem Agrees.onRows {wary : Wary RasterError (RowState κ) α} {step : RowM κ α}
    (agrees : Agrees wary step session.rows) :
    Agrees (onRows wary) (Session.onRows step) session := by
  unfold Agrees Wary.onRows Wary.lift EStateM.adaptExcept
  rw [Session.onRows_eq]
  cases ran : step session.rows with
  | ok a rows =>
    dsimp only
    rw [agrees.of_ok ran]
  | error err rows =>
    dsimp only
    rw [agrees.of_error ran]

end

end Wary

end WpgRaster
