import WpgRaster.Proofs.Steps
import WpgRaster.Frame.Decode

/-!
# Simulations

Two programs that do the same to different states: started in states that
are related, they answer the same and leave related states behind. A
decoder is built from a few operations of its source and its consumer, and
if those are simulated, then so is everything that is built from them.
-/

namespace WpgRaster

variable {ε σ τ α β : Type}

/-- **Results that correspond**: the same answer or the same error, and
related states. -/
inductive Corresponds (rel : σ → τ → Prop) :
    EStateM.Result ε σ α → EStateM.Result ε τ α → Prop
  /-- Both went well. -/
  | ok {a : α} {s : σ} {t : τ} : rel s t → Corresponds rel (.ok a s) (.ok a t)
  /-- Both failed. -/
  | error {err : ε} {s : σ} {t : τ} : rel s t → Corresponds rel (.error err s) (.error err t)

/-- **A step that simulates another one.** -/
def Simulates (rel : σ → τ → Prop) (step : EStateM ε σ α) (step' : EStateM ε τ α) : Prop :=
  ∀ s t, rel s t → Corresponds rel (step s) (step' t)

namespace Simulates

variable {rel : σ → τ → Prop}

theorem pure (a : α) : Simulates rel (Pure.pure a : EStateM ε σ α) (Pure.pure a) :=
  fun _ _ related => .ok related

/-- A step simulates itself. -/
theorem refl (step : EStateM ε σ α) : Simulates Eq step step := by
  rintro s _ rfl
  cases step s with
  | ok a s' => exact .ok rfl
  | error err s' => exact .error rfl

theorem throw (err : ε) :
    Simulates rel (MonadExcept.throw err : EStateM ε σ α) (MonadExcept.throw err) :=
  fun _ _ related => .error related

/-- Steps in sequence are simulated one by one. -/
theorem bind {step : EStateM ε σ α} {step' : EStateM ε τ α} {next : α → EStateM ε σ β}
    {next' : α → EStateM ε τ β} (first : Simulates rel step step')
    (second : ∀ a, Simulates rel (next a) (next' a)) :
    Simulates rel (step >>= next) (step' >>= next') := by
  intro s t related
  have results := first s t related
  generalize run : step s = result, run' : step' t = result' at results
  cases results with
  | ok related' =>
    rw [bind_of_ok run, bind_of_ok run']
    exact second _ _ _ related'
  | error related' =>
    rw [bind_of_error run, bind_of_error run']
    exact .error related'

/-- A choice that is made alike. -/
theorem ite {cond : Prop} [Decidable cond] {step other : EStateM ε σ α}
    {step' other' : EStateM ε τ α} (yes : cond → Simulates rel step step')
    (no : ¬ cond → Simulates rel other other') :
    Simulates rel (if cond then step else other) (if cond then step' else other') := by
  by_cases holds : cond
  · rw [if_pos holds, if_pos holds]
    exact yes holds
  · rw [if_neg holds, if_neg holds]
    exact no holds

end Simulates

/-! ## Rows -/

/-- Rows on their way to related consumers. -/
structure RowState.Related {κ κ' : Type} (rel : κ → κ' → Prop) (state : RowState κ)
    (state' : RowState κ') : Prop where
  /-- The assemblers are the same. -/
  assembler : state.assembler = state'.assembler
  /-- The consumers are related. -/
  consumer : rel state.consumer state'.consumer

/-- **A consumer that simulates another one** takes and refuses the same
rows. -/
def ConsumerSimulates {κ κ' : Type} [RowConsumer κ] [RowConsumer κ'] (rel : κ → κ' → Prop) :
    Prop :=
  ∀ row bytes, Simulates rel
    (RowConsumer.consume row bytes : EStateM RasterError κ Unit)
    (RowConsumer.consume row bytes : EStateM RasterError κ' Unit)

/-- Steps on the same assembler are compared by their consumers. -/
theorem Simulates.of_consumers {κ κ' : Type} {rel : κ → κ' → Prop} {step : RowM κ α}
    {step' : RowM κ' α}
    (steps : ∀ asm consumer consumer', rel consumer consumer' →
      Corresponds (RowState.Related rel) (step ⟨asm, consumer⟩) (step' ⟨asm, consumer'⟩)) :
    Simulates (RowState.Related rel) step step' := by
  rintro ⟨asm, consumer⟩ ⟨asm', consumer'⟩ ⟨same, related⟩
  dsimp only at same related
  subst same
  exact steps asm consumer consumer' related

namespace RowAssembler

variable {κ κ' : Type} [RowConsumer κ] [RowConsumer κ'] {rel : κ → κ' → Prop}
  (consumes : ConsumerSimulates rel)

include consumes

theorem commit_simulates :
    Simulates (RowState.Related rel) (commit : RowM κ Unit) (commit : RowM κ' Unit) := by
  refine .of_consumers fun asm consumer consumer' related => ?_
  have results := consumes asm.row asm.buffer.current consumer consumer' related
  unfold commit
  dsimp only
  generalize RowConsumer.consume asm.row asm.buffer.current consumer = result,
    RowConsumer.consume asm.row asm.buffer.current consumer' = result' at results
  cases results with
  | ok after => exact .ok ⟨rfl, after⟩
  | error after => exact .error ⟨rfl, after⟩

theorem append_simulates (byte : UInt8) :
    Simulates (RowState.Related rel) (append byte : RowM κ Unit) (append byte : RowM κ' Unit) := by
  refine .of_consumers fun asm consumer consumer' related => ?_
  have committed := commit_simulates consumes ⟨asm.store byte, consumer⟩
    ⟨asm.store byte, consumer'⟩ ⟨rfl, related⟩
  unfold append
  dsimp only
  split
  · exact .error ⟨rfl, related⟩
  · split
    · exact .error ⟨rfl, related⟩
    · split
      · exact committed
      · exact .ok ⟨rfl, related⟩

theorem appendAll_simulates (bytes : List UInt8) :
    Simulates (RowState.Related rel) (appendAll bytes : RowM κ Unit)
      (appendAll bytes : RowM κ' Unit) := by
  induction bytes with
  | nil => exact .pure ()
  | cons byte rest ih => exact (append_simulates consumes byte).bind fun _ => ih

theorem appendRepeated_simulates (bytes : List UInt8) (count : Nat) :
    Simulates (RowState.Related rel) (appendRepeated bytes count : RowM κ Unit)
      (appendRepeated bytes count : RowM κ' Unit) := by
  induction count with
  | zero => exact .pure ()
  | succ count ih => exact (appendAll_simulates consumes bytes).bind fun _ => ih

theorem resubmit_simulates (count : Nat) :
    Simulates (RowState.Related rel) (resubmit count : RowM κ Unit)
      (resubmit count : RowM κ' Unit) := by
  induction count with
  | zero => exact .pure ()
  | succ count ih =>
    refine .of_consumers fun asm consumer consumer' related => ?_
    unfold resubmit
    dsimp only
    split
    · exact .ok ⟨rfl, related⟩
    · exact (commit_simulates consumes).bind (fun _ => ih) _ _ ⟨rfl, related⟩

theorem repeatRow_simulates (count : Nat) :
    Simulates (RowState.Related rel) (repeatRow count : RowM κ Unit)
      (repeatRow count : RowM κ' Unit) := by
  refine .of_consumers fun asm consumer consumer' related => ?_
  unfold repeatRow
  dsimp only
  split
  · exact resubmit_simulates consumes count _ _ ⟨rfl, related⟩
  · exact .error ⟨rfl, related⟩

theorem fillRows_simulates (count : Nat) :
    Simulates (RowState.Related rel) (fillRows count : RowM κ Unit)
      (fillRows count : RowM κ' Unit) := by
  induction count with
  | zero => exact .pure ()
  | succ count ih =>
    refine .of_consumers fun asm consumer consumer' related => ?_
    exact (commit_simulates consumes).bind (fun _ => ih) _ _ ⟨rfl, related⟩

theorem fillRemaining_simulates :
    Simulates (RowState.Related rel) (fillRemaining : RowM κ Nat)
      (fillRemaining : RowM κ' Nat) := by
  refine .of_consumers fun asm consumer consumer' related => ?_
  have filled := (fillRows_simulates consumes (asm.rows - asm.row)).bind
    fun _ => .pure (asm.rows - asm.row)
  exact filled ⟨asm, consumer⟩ ⟨asm, consumer'⟩ ⟨rfl, related⟩

end RowAssembler

end WpgRaster
