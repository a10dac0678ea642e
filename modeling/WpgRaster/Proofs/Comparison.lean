import WpgRaster.Proofs.Simulation
import WpgRaster.Proofs.Upholding

/-!
# Comparisons

A simulation is exact: both programs answer the same all along. Sources that are
not sound are only followed up to a point, and so programs are *compared* here
on `Terms` that say more: which errors are taken for the same and what is left
behind them, at which errors of the first program the comparison ends, and at
which states of the second one it does, provided that the second program never
leaves these states again. A simulation is a comparison on the strictest terms
(`Simulates.compares`).

How the states behind two steps are related may depend on what the steps answer.
Steps that are compared one by one are compared in sequence (`Compares.bind`).
-/

namespace WpgRaster

variable {ε σ τ α β : Type}

/-- **The terms of a comparison** of a first program with a second one. -/
structure Terms (ε σ τ : Type) where
  /-- Errors that are taken for the same. -/
  alike : ε → ε → Prop := Eq
  /-- How the states behind such errors are related. -/
  failed : σ → τ → Prop
  /-- Errors of the first program that end the comparison. -/
  fatal : ε → Prop := fun _ => False
  /-- States of the second program that end it. -/
  late : τ → Prop := fun _ => False

/-- **Results that compare**: they correspond, or the comparison has ended. -/
inductive Compared (terms : Terms ε σ τ) (post : α → σ → τ → Prop) :
    EStateM.Result ε σ α → EStateM.Result ε τ α → Prop
  /-- Both went well. -/
  | ok {a : α} {s : σ} {t : τ} : post a s t → Compared terms post (.ok a s) (.ok a t)
  /-- Both failed alike. -/
  | error {err err' : ε} {s : σ} {t : τ} : terms.alike err err' → terms.failed s t →
    Compared terms post (.error err s) (.error err' t)
  /-- The first one failed for good. -/
  | fatal {err : ε} {s : σ} {result : EStateM.Result ε τ α} : terms.fatal err →
    Compared terms post (.error err s) result
  /-- The second one went too far. -/
  | late {result : EStateM.Result ε σ α} {result' : EStateM.Result ε τ α} :
    terms.late (behind result') → Compared terms post result result'

/-- **Steps that compare**, from related states on. -/
structure Compares (terms : Terms ε σ τ) (pre : σ → τ → Prop) (post : α → σ → τ → Prop)
    (step : EStateM ε σ α) (step' : EStateM ε τ α) : Prop where
  /-- Their results do. -/
  compared : ∀ s t, pre s t → Compared terms post (step s) (step' t)
  /-- The second one stays where it is too late. -/
  stays : ∀ t, terms.late t → terms.late (behind (step' t))

/-- Steps that compare and leave states behind that are related as before. -/
abbrev Matches (terms : Terms ε σ τ) (rel : σ → τ → Prop) (step : EStateM ε σ α)
    (step' : EStateM ε τ α) : Prop :=
  Compares terms rel (fun _ => rel) step step'

variable {terms : Terms ε σ τ} {pre rel : σ → τ → Prop} {mid : α → σ → τ → Prop}
  {post : β → σ → τ → Prop}

/-- What is compared goes on being compared, whatever comes next. -/
theorem Compared.bind {step : EStateM ε σ α} {step' : EStateM ε τ α} {next : α → EStateM ε σ β}
    {next' : α → EStateM ε τ β} {s : σ} {t : τ} (first : Compared terms mid (step s) (step' t))
    (second : ∀ a, Compares terms (mid a) post (next a) (next' a)) :
    Compared terms post ((step >>= next) s) ((step' >>= next') t) := by
  generalize run : step s = result, run' : step' t = result' at first
  cases first with
  | ok related =>
    rw [bind_of_ok run, bind_of_ok run']
    exact (second _).compared _ _ related
  | error alike related =>
    rw [bind_of_error run, bind_of_error run']
    exact .error alike related
  | fatal failed =>
    rw [bind_of_error run]
    exact .fatal failed
  | late beyond =>
    refine .late ?_
    cases result' with
    | ok a t' =>
      rw [bind_of_ok run']
      exact (second a).stays t' beyond
    | error err t' =>
      rw [bind_of_error run']
      exact beyond

namespace Compares

/-- To answer something moves nothing. -/
theorem answer {a : α} (weaker : ∀ s t, pre s t → mid a s t) :
    Compares terms pre mid (Pure.pure a) (Pure.pure a) where
  compared s t related := .ok (weaker s t related)
  stays _ beyond := beyond

theorem pure (a : α) : Matches terms rel (Pure.pure a) (Pure.pure a) := answer fun _ _ => id

theorem throw {err : ε} (alike : terms.alike err err) (weaker : ∀ s t, pre s t → terms.failed s t) :
    Compares terms pre mid (MonadExcept.throw err) (MonadExcept.throw err) where
  compared s t related := .error alike (weaker s t related)
  stays _ beyond := beyond

theorem weaken {mid' : α → σ → τ → Prop} {step : EStateM ε σ α} {step' : EStateM ε τ α}
    (compares : Compares terms pre mid step step') (weaker : ∀ a s t, mid a s t → mid' a s t) :
    Compares terms pre mid' step step' where
  compared s t related := by
    have results := compares.compared s t related
    generalize step s = result, step' t = result' at results
    cases results with
    | ok related => exact .ok (weaker _ _ _ related)
    | error alike related => exact .error alike related
    | fatal failed => exact .fatal failed
    | late beyond => exact .late beyond
  stays := compares.stays

/-- A failed step may leave states behind that are less related. -/
theorem weakenFailed {step : EStateM ε σ α} {step' : EStateM ε τ α}
    (compares : Compares terms pre mid step step') {failed : σ → τ → Prop}
    (weaker : ∀ s t, terms.failed s t → failed s t) :
    Compares { terms with failed } pre mid step step' where
  compared s t related := by
    have results := compares.compared s t related
    generalize step s = result, step' t = result' at results
    cases results with
    | ok related => exact .ok related
    | error same related => exact .error same (weaker _ _ related)
    | fatal failed => exact .fatal failed
    | late beyond => exact .late beyond
  stays := compares.stays

/-- **Steps in sequence are compared one by one.** -/
theorem bind {step : EStateM ε σ α} {step' : EStateM ε τ α} {next : α → EStateM ε σ β}
    {next' : α → EStateM ε τ β} (first : Compares terms pre mid step step')
    (second : ∀ a, Compares terms (mid a) post (next a) (next' a)) :
    Compares terms pre post (step >>= next) (step' >>= next') where
  compared s t related := (first.compared s t related).bind second
  stays t beyond := by
    have there := first.stays t beyond
    cases run' : step' t with
    | ok a t' =>
      rw [run'] at there
      rw [bind_of_ok run']
      exact (second a).stays t' there
    | error err t' =>
      rw [run'] at there
      rw [bind_of_error run']
      exact there

/-- A choice that is made alike. -/
theorem ite {cond : Prop} [Decidable cond] {step other : EStateM ε σ α}
    {step' other' : EStateM ε τ α} (yes : cond → Compares terms pre mid step step')
    (no : ¬ cond → Compares terms pre mid other other') :
    Compares terms pre mid (if cond then step else other) (if cond then step' else other') := by
  by_cases holds : cond
  · rw [if_pos holds, if_pos holds]
    exact yes holds
  · rw [if_neg holds, if_neg holds]
    exact no holds

end Compares

/-! ## Outcomes -/

/-- **Computations of the same outcome**: related values, or the same error. -/
inductive SameOutcome (rel : α → β → Prop) : Except ε α → Except ε β → Prop
  /-- Both went well. -/
  | ok {a : α} {b : β} : rel a b → SameOutcome rel (.ok a) (.ok b)
  /-- Both failed. -/
  | error {err : ε} : SameOutcome rel (.error err) (.error err)

namespace SameOutcome

variable {rel : α → β → Prop}

theorem refl {same : α → α → Prop} (refl : ∀ a, same a a) (result : Except ε α) :
    SameOutcome same result result := by
  cases result with
  | ok a => exact .ok (refl a)
  | error err => exact .error

theorem bind {γ δ : Type} {rel' : γ → δ → Prop} {result : Except ε α} {result' : Except ε β}
    {next : α → Except ε γ} {next' : β → Except ε δ} (first : SameOutcome rel result result')
    (second : ∀ a b, rel a b → SameOutcome rel' (next a) (next' b)) :
    SameOutcome rel' (result >>= next) (result' >>= next') := by
  cases first with
  | ok related => exact second _ _ related
  | error => exact .error

theorem ite {cond : Prop} [Decidable cond] {result other : Except ε α}
    {result' other' : Except ε β} (yes : cond → SameOutcome rel result result')
    (no : ¬ cond → SameOutcome rel other other') :
    SameOutcome rel (if cond then result else other) (if cond then result' else other') := by
  by_cases holds : cond
  · rw [if_pos holds, if_pos holds]
    exact yes holds
  · rw [if_neg holds, if_neg holds]
    exact no holds

end SameOutcome

/-! ## Terms without an end -/

/-- The terms of a comparison that ends with some errors of the first program,
and otherwise is exact. -/
def Terms.until (fatal : ε → Prop) (rel : σ → τ → Prop) : Terms ε σ τ := { failed := rel, fatal }

/-- Results that correspond compare, whatever might end the comparison. -/
theorem Corresponds.compared {fatal : ε → Prop} {result : EStateM.Result ε σ α}
    {result' : EStateM.Result ε τ α} (results : Corresponds rel result result') :
    Compared (.until fatal rel) (fun _ => rel) result result' := by
  cases results with
  | ok related => exact .ok related
  | error related => exact .error rfl related

/-- **A simulation is a comparison**, whatever might end it. -/
theorem Simulates.compares {fatal : ε → Prop} {step : EStateM ε σ α} {step' : EStateM ε τ α}
    (simulates : Simulates rel step step') : Matches (.until fatal rel) rel step step' where
  compared s t related := (simulates s t related).compared
  stays _ beyond := beyond.elim

/-- If nothing ends a comparison, then it is a simulation. -/
theorem Compares.simulates {step : EStateM ε σ α} {step' : EStateM ε τ α}
    (compares : Matches (.until (fun _ => False) rel) rel step step') :
    Simulates rel step step' := by
  intro s t related
  have results := compares.compared s t related
  generalize step s = result, step' t = result' at results
  cases results with
  | ok related => exact .ok related
  | error same related =>
    cases same
    exact .error related
  | fatal failed => exact failed.elim
  | late beyond => exact beyond.elim

end WpgRaster
