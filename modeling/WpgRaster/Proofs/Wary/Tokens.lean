import WpgRaster.Proofs.Steps
import WpgRaster.RunLength.Decode

/-!
# Tokens within reach

A register has eight bytes, and a sample is made of the first ones of them, one at least
(`SampleRegister.InReach`). The numbers in tokens are small (`Token.InReach`). Reading a token
keeps the register so, whatever the source delivers (`Token.read_answers`): the only token that
changes the size of a sample is refused if it asks for no byte or for more than eight.
-/

namespace WpgRaster

/-! ## What steps answer -/

/-- **A property of all answers** that a step gives when it goes well. -/
def Answers {ε σ α : Type} (post : α → Prop) (step : EStateM ε σ α) : Prop :=
  ∀ s a s', step s = .ok a s' → post a

namespace Answers

variable {ε σ α β : Type} {post : α → Prop} {post' : β → Prop}

theorem pure {a : α} (known : post a) : Answers post (Pure.pure a : EStateM ε σ α) := by
  intro s a' s' ran
  cases ran
  exact known

/-- Any step answers something. -/
theorem any (step : EStateM ε σ α) : Answers (fun _ => True) step := fun _ _ _ _ => trivial

theorem throw (err : ε) : Answers post (MonadExcept.throw err : EStateM ε σ α) :=
  fun _ _ _ ran => nomatch ran

theorem bind {step : EStateM ε σ α} {next : α → EStateM ε σ β} (first : Answers post step)
    (second : ∀ a, post a → Answers post' (next a)) : Answers post' (step >>= next) := by
  intro s b s' ran
  obtain ⟨a, mid, ran, ran'⟩ := exists_of_bind_ok ran
  exact second a (first s a mid ran) mid b s' ran'

end Answers

/-! ## Registers and tokens -/

/-- **A register whose sample is in reach**: it has a byte, and all its bytes are among the eight
of the register. -/
def SampleRegister.InReach (reg : SampleRegister) : Prop :=
  (1 ≤ reg.size ∧ reg.size ≤ 8) ∧ reg.bytes.length = 8

instance (reg : SampleRegister) : Decidable reg.InReach :=
  inferInstanceAs (Decidable (_ ∧ _))

/-- **A token whose numbers are in reach**: a word counts what it asks for, and a sample has one
byte to eight. -/
def Token.InReach : Token → Prop
  | copy count | fill _ count | repeatSample count | repeatRow count => count < Size.limit
  | setSampleSize size => 1 ≤ size ∧ size ≤ 8
  | toggleDelta => True

instance : (token : Token) → Decidable token.InReach
  | .copy count | .fill _ count | .repeatSample count | .repeatRow count =>
    inferInstanceAs (Decidable (count < Size.limit))
  | .setSampleSize size => inferInstanceAs (Decidable (1 ≤ size ∧ size ≤ 8))
  | .toggleDelta => inferInstanceAs (Decidable True)

namespace SampleRegister

variable {reg : SampleRegister}

/-- The register before the first token. -/
theorem inReach_empty : ({} : SampleRegister).InReach := by decide

/-- A sample is loaded into its place. -/
theorem InReach.load (reach : reg.InReach) {sample : List UInt8}
    (size : sample.length = reg.size) : (reg.load sample).InReach := by
  obtain ⟨few, length⟩ := reach
  refine ⟨few, ?_⟩
  show (sample ++ reg.bytes.drop sample.length).length = 8
  rw [List.length_append, List.length_drop]
  omega

/-- Runs of samples are short. -/
theorem InReach.runBytes_lt (reach : reg.InReach) {runs : Nat} (few : runs < 256) :
    reg.runBytes runs < Size.limit :=
  calc reg.size * (runs + 1) ≤ 8 * 256 := Nat.mul_le_mul reach.1.2 few
    _ < Size.limit := by decide

end SampleRegister

namespace Token

variable {σ : Type} [ByteSource σ]

/-- An operand is a byte. -/
theorem operand_answers : Answers (· < 256) (operand : EStateM RasterError σ Nat) := by
  intro source n source' ran
  obtain ⟨byte, mid, -, ran⟩ := exists_of_bind_ok ran
  cases ran
  exact byte.toNat_lt

/-- There are as many bytes as were asked for. -/
theorem nextBytes_answers (count : Nat) :
    Answers (List.length · = count) (nextBytes count : EStateM RasterError σ (List UInt8)) := by
  induction count with
  | zero => exact .pure rfl
  | succ count ih =>
    intro source bytes source' ran
    obtain ⟨byte, mid, -, ran⟩ := exists_of_bind_ok ran
    obtain ⟨rest, mid', ran', ran⟩ := exists_of_bind_ok ran
    cases ran
    exact congrArg (· + 1) (ih mid rest _ ran')

/-- **A token that is read is in reach, and so is the register behind it.** -/
theorem read_answers (generation : Generation) {reg : SampleRegister} (reach : reg.InReach) :
    Answers (fun read => read.1.InReach ∧ read.2.InReach)
      (read generation reg : EStateM RasterError σ (Token × SampleRegister)) := by
  have small : ∀ n, n < 256 → n < Size.limit := fun n few =>
    Nat.lt_trans few (by decide)
  cases generation with
  | first =>
    have plain : Answers InReach (readFirst : EStateM RasterError σ Token) := by
      refine operand_answers.bind fun control few => ?_
      have n : control % 0x80 < 256 := by omega
      dsimp only
      split
      · split
        · exact operand_answers.bind fun count few => .pure (small count few)
        · exact .pure (small _ n)
      · split
        · exact operand_answers.bind fun count few => .pure (small count few)
        · intro source token source' ran
          obtain ⟨value, mid, -, ran⟩ := exists_of_bind_ok ran
          cases ran
          exact small _ n
    exact plain.bind fun token known => .pure ⟨known, reach⟩
  | second =>
    refine operand_answers.bind fun control few => ?_
    have n : control % 0x80 + 1 < 256 := by omega
    dsimp only
    split
    · refine operand_answers.bind fun size _ => ?_
      split
      · next fits => exact .pure ⟨fits, reach⟩
      · exact .throw _
    · exact .pure ⟨trivial, reach⟩
    · exact operand_answers.bind fun runs few => .pure ⟨reach.runBytes_lt few, reach⟩
    · exact operand_answers.bind fun count few => .pure ⟨Nat.lt_of_le_of_lt few (by decide), reach⟩
    · exact operand_answers.bind fun count few => .pure ⟨Nat.lt_of_le_of_lt few (by decide), reach⟩
    · exact operand_answers.bind fun runs few => .pure ⟨reach.runBytes_lt few, reach⟩
    · split
      · exact .pure ⟨reach.runBytes_lt (by omega), reach⟩
      · exact (nextBytes_answers _).bind fun sample size => .pure ⟨small _ n, reach.load size⟩

end Token

end WpgRaster
