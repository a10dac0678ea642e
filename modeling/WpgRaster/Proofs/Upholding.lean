import Mathlib.Order.Defs.Unbundled
import WpgRaster.Proofs.Frame.Advance

/-!
# What steps uphold

A step *upholds* a relation if it leaves behind a state that is related to the
one before, whether or not it goes well (`Upholds`). If the relation is a
preorder, then steps in sequence uphold what each of them upholds.
-/

namespace WpgRaster

variable {ε σ α β : Type}

/-- **A step that upholds a relation** between the state before and the one
behind it. -/
def Upholds (rel : σ → σ → Prop) (step : EStateM ε σ α) : Prop :=
  ∀ s, rel s (behind (step s))

namespace Upholds

variable {rel : σ → σ → Prop} {step : EStateM ε σ α}

/-- A step that went well related the states. -/
theorem of_ok (upholds : Upholds rel step) {s s' : σ} {a : α} (ran : step s = .ok a s') :
    rel s s' := by
  have upheld := upholds s
  rwa [ran] at upheld

/-- So did one that failed. -/
theorem of_error (upholds : Upholds rel step) {s s' : σ} {err : ε} (ran : step s = .error err s') :
    rel s s' := by
  have upheld := upholds s
  rwa [ran] at upheld

theorem mono {rel' : σ → σ → Prop} (upholds : Upholds rel step)
    (weaker : ∀ s s', rel s s' → rel' s s') : Upholds rel' step :=
  fun s => weaker _ _ (upholds s)

variable [IsPreorder σ rel]

theorem pure (a : α) : Upholds rel (Pure.pure a : EStateM ε σ α) :=
  fun s => refl_of rel s

theorem throw (err : ε) : Upholds rel (MonadExcept.throw err : EStateM ε σ α) :=
  fun s => refl_of rel s

theorem get : Upholds rel (MonadState.get : EStateM ε σ σ) :=
  fun s => refl_of rel s

/-- Steps in sequence. -/
theorem bind {next : α → EStateM ε σ β} (first : Upholds rel step)
    (second : ∀ a, Upholds rel (next a)) : Upholds rel (step >>= next) := by
  intro s
  cases run : step s with
  | ok a mid =>
    rw [bind_of_ok run]
    exact trans_of rel (first.of_ok run) (second a mid)
  | error err mid =>
    rw [bind_of_error run]
    exact first.of_error run

end Upholds

end WpgRaster
