import Mathlib.Algebra.Order.Field.Rat
import Mathlib.Algebra.Order.Group.Unbundled.Abs
import Mathlib.Tactic.Linarith
import Mathlib.Tactic.Ring
import WpgRaster.Color.Quantum
import WpgRaster.Proofs.Frame.Advance

/-!
# Samples and the quantum

A sample of `depth` bits stands for a fraction of the largest one, and it is shown by the number
nearest to that fraction of the quantum. To add half a unit before the quotient is rounded down
prefers the larger one of two numbers that are equally near. There are no such numbers: the
largest sample of a depth is odd, so that no quotient by it lies in the middle between two
numbers (`near_nearestQuotient`). What a table shows is thus determined by what is nearest
(`Nearest`), and everything else follows from it.

That the numbers in between fit a word is a matter of its own (`rescale?`).

A table is rebuilt where it is (`QuantumTable.rebuildInPlace`), which might leave something else
behind if it fails. Whatever tables were built and rebuilt before, what is there now is the table
of its depth.
-/

namespace WpgRaster

/-! ## The nearest number -/

/-- **The only nearest number**: every other one is farther away. -/
def Nearest (x : ℚ) (n : ℤ) : Prop := ∀ m : ℤ, m ≠ n → |x - n| < |x - m|

/-- Less than half a unit away from `a / b`, in whole numbers. -/
structure Near (a b n : Nat) : Prop where
  above : 2 * (b * n) < 2 * a + b
  below : 2 * a < 2 * (b * n) + b

/-- Half a unit is added before the quotient is rounded down. -/
def nearestQuotient (a b : Nat) : Nat := (a * 2 + b) / (b * 2)

theorem rescale_eq_nearestQuotient (raw maxRaw : Nat) :
    rescale raw maxRaw = nearestQuotient (raw * quantumMax) maxRaw := rfl

/-- What is less than half a unit away is nearest. -/
theorem nearest_of_abs_lt {x : ℚ} {n : ℤ} (close : |x - n| < 1 / 2) : Nearest x n := by
  intro m other
  have apart : (1 : ℚ) ≤ |(m : ℚ) - n| := by
    have whole : 1 ≤ |m - n| := Int.one_le_abs (sub_ne_zero.mpr other)
    exact_mod_cast whole
  have around : |(m : ℚ) - n| ≤ |x - m| + |x - n| := by
    calc |(m : ℚ) - n| ≤ |(m : ℚ) - x| + |x - n| := abs_sub_le _ _ _
      _ = |x - m| + |x - n| := by rw [abs_sub_comm]
  linarith

section

variable {a b n : Nat}

theorem Near.nearest (near : Near a b n) : Nearest ((a : ℚ) / b) n := by
  have above : (2 : ℚ) * (b * n) < 2 * a + b := by exact_mod_cast near.above
  have below : (2 : ℚ) * a < 2 * (b * n) + b := by exact_mod_cast near.below
  have pos : (0 : ℚ) < b := by linarith
  refine nearest_of_abs_lt (abs_sub_lt_iff.mpr ⟨?_, ?_⟩)
  · rw [sub_lt_iff_lt_add, div_lt_iff₀ pos]
    push_cast
    linarith
  · rw [sub_lt_comm, lt_div_iff₀ pos]
    push_cast
    linarith

/-- There is at most one number that is so near. -/
theorem Near.eq_nearestQuotient (near : Near a b n) : nearestQuotient a b = n := by
  have above := near.above
  have below := near.below
  have product : n * (b * 2) = 2 * (b * n) := by ring
  have next : (n + 1) * (b * 2) = 2 * (b * n) + 2 * b := by ring
  exact Nat.div_eq_of_lt_le (by omega) (by omega)

/-- **Quotients by odd numbers are never in the middle** between two numbers. -/
theorem near_nearestQuotient (a : Nat) (odd : b % 2 = 1) : Near a b (nearestQuotient a b) := by
  have split := Nat.div_add_mod (a * 2 + b) (b * 2)
  have small := Nat.mod_lt (a * 2 + b) (show 0 < b * 2 by omega)
  have product : b * 2 * ((a * 2 + b) / (b * 2)) = 2 * (b * nearestQuotient a b) := by
    unfold nearestQuotient
    ring
  rw [product] at split
  -- the remainder is odd, as the dividend is
  exact ⟨by omega, by omega⟩

theorem nearestQuotient_le_nearestQuotient {a' : Nat} (le : a ≤ a') :
    nearestQuotient a b ≤ nearestQuotient a' b :=
  Nat.div_le_div_right (Nat.add_le_add_right (Nat.mul_le_mul_right 2 le) b)

/-- Numbers that are a whole divisor apart have different quotients. -/
theorem nearestQuotient_lt_nearestQuotient {a' : Nat} (pos : 0 < b) (le : a + b ≤ a') :
    nearestQuotient a b < nearestQuotient a' b := by
  calc nearestQuotient a b < (a * 2 + b) / (b * 2) + 1 := Nat.lt_succ_self _
    _ = (a * 2 + b + b * 2) / (b * 2) := (Nat.add_div_right _ (by omega)).symm
    _ ≤ nearestQuotient a' b := Nat.div_le_div_right (by omega)

end

/-! ## Samples of one depth -/

section

variable {raw raw' maxRaw : Nat}

/-- No sample exceeds the quantum. -/
theorem rescale_le (pos : 0 < maxRaw) (le : raw ≤ maxRaw) : rescale raw maxRaw ≤ quantumMax := by
  rw [← rescale_self pos]
  exact nearestQuotient_le_nearestQuotient (Nat.mul_le_mul_right _ le)

/-- Samples of up to 16 bits are told apart. -/
theorem rescale_lt_rescale (pos : 0 < maxRaw) (shallow : maxRaw ≤ quantumMax) (lt : raw < raw') :
    rescale raw maxRaw < rescale raw' maxRaw := by
  refine nearestQuotient_lt_nearestQuotient pos ?_
  calc raw * quantumMax + maxRaw ≤ raw * quantumMax + quantumMax := Nat.add_le_add_left shallow _
    _ = (raw + 1) * quantumMax := (Nat.succ_mul _ _).symm
    _ ≤ raw' * quantumMax := Nat.mul_le_mul_right _ lt

/-- Samples of 16 bits or more show every value. It is shown by the sample that is nearest to the
value's fraction of the largest sample. -/
theorem exists_rescale_eq (deep : quantumMax ≤ maxRaw) {value : Nat} (le : value ≤ quantumMax) :
    ∃ raw ≤ maxRaw, rescale raw maxRaw = value := by
  have near := near_nearestQuotient (value * maxRaw) (show quantumMax % 2 = 1 by decide)
  refine ⟨nearestQuotient (value * maxRaw) quantumMax, ?_, ?_⟩
  · have last : nearestQuotient (maxRaw * quantumMax) quantumMax = maxRaw :=
      Near.eq_nearestQuotient ⟨by linarith [show 0 < quantumMax by decide],
        by linarith [show 0 < quantumMax by decide]⟩
    calc nearestQuotient (value * maxRaw) quantumMax
        ≤ nearestQuotient (maxRaw * quantumMax) quantumMax := by
          rw [Nat.mul_comm maxRaw]
          exact nearestQuotient_le_nearestQuotient (Nat.mul_le_mul_right _ le)
      _ = maxRaw := last
  · have above := near.above
    have below := near.below
    rw [rescale_eq_nearestQuotient]
    refine Near.eq_nearestQuotient ⟨?_, ?_⟩ <;> linarith

/-- The quotient in words of 64 bits: nothing if a number in between does not fit one. -/
def nearestQuotient? (a b : Nat) : Option Nat := do
  let doubled ← Size.mul? a 2
  let dividend ← Size.add? doubled b
  let divisor ← Size.mul? b 2
  if 0 < divisor then some (dividend / divisor) else none

theorem nearestQuotient?_eq_some {a b : Nat} (pos : 0 < b) (small : b * 2 < Size.limit)
    (room : a * 2 + b < Size.limit) : nearestQuotient? a b = some (nearestQuotient a b) := by
  have doubled : Size.mul? a 2 = some (a * 2) :=
    Size.mul?_eq_some.mpr ⟨rfl, Nat.lt_of_le_of_lt (Nat.le_add_right _ _) room⟩
  have dividend : Size.add? (a * 2) b = some (a * 2 + b) := Size.add?_eq_some.mpr ⟨rfl, room⟩
  have divisor : Size.mul? b 2 = some (b * 2) := Size.mul?_eq_some.mpr ⟨rfl, small⟩
  unfold nearestQuotient? nearestQuotient
  simp only [doubled, dividend, divisor, Option.bind_eq_bind, Option.bind_some]
  exact if_pos (Nat.mul_pos pos Nat.two_pos)

/-- A sample in words of 64 bits, shown by one of 16 bits. -/
def rescale? (raw maxRaw : Nat) : Option UInt16 := do
  let scaled ← Size.mul? raw quantumMax
  let shown ← nearestQuotient? scaled maxRaw
  if shown ≤ quantumMax then some shown.toUInt16 else none

/-- **Everything fits**, up to 24 bits. -/
theorem rescale?_eq_some (pos : 0 < maxRaw) (small : maxRaw < 0x1000000) (le : raw ≤ maxRaw) :
    rescale? raw maxRaw = some (rescale raw maxRaw).toUInt16 := by
  have room : raw * quantumMax * 2 + maxRaw < Size.limit := by
    unfold quantumMax Size.limit
    omega
  have scaled : Size.mul? raw quantumMax = some (raw * quantumMax) :=
    Size.mul?_eq_some.mpr ⟨rfl, by omega⟩
  have quotient : nearestQuotient? (raw * quantumMax) maxRaw = some (rescale raw maxRaw) :=
    nearestQuotient?_eq_some pos (by unfold Size.limit; omega) room
  exact Option.bind_eq_some_iff.mpr ⟨_, scaled, Option.bind_eq_some_iff.mpr
    ⟨_, quotient, if_pos (rescale_le pos le)⟩⟩

end

/-! ## Tables -/

namespace QuantumTable

variable {lut : QuantumTable} {depth : Nat}

/-- The values of all samples, if there is a table of them. -/
def tabulate (depth : Nat) : Array UInt16 :=
  if depth ≤ maxTabulated then
    Array.ofFn fun raw : Fin (Size.values depth - 1 + 1) =>
      (rescale raw (Size.values depth - 1)).toUInt16
  else #[]

theorem build_eq_error (bad : depth = 0 ∨ maxDepth < depth) :
    build depth = .error (.unsupportedDepth depth) := if_pos bad

theorem build_eq_ok (pos : 1 ≤ depth) (le : depth ≤ maxDepth) :
    build depth = .ok ⟨depth, tabulate depth⟩ := if_neg (by omega)

/-- **The table of its depth**, as it is built. -/
structure Built (lut : QuantumTable) : Prop where
  depth_pos : 1 ≤ lut.depth
  depth_le : lut.depth ≤ maxDepth
  table_eq : lut.table = tabulate lut.depth

theorem built_of_build (built : build depth = .ok lut) : lut.Built ∧ lut.depth = depth := by
  by_cases bad : depth = 0 ∨ maxDepth < depth
  · rw [build_eq_error bad] at built
    cases built
  · rw [build_eq_ok (by omega) (by omega)] at built
    cases built
    exact ⟨⟨by dsimp only; omega, by dsimp only; omega, rfl⟩, rfl⟩

theorem maxRaw_eq (lut : QuantumTable) : lut.maxRaw = 2 ^ lut.depth - 1 := by
  unfold maxRaw Size.values
  rw [Nat.one_shiftLeft]

namespace Built

theorem maxRaw_odd (built : lut.Built) : lut.maxRaw % 2 = 1 := by
  have twice : 2 ^ lut.depth = 2 * 2 ^ (lut.depth - 1) := by
    rw [← Nat.pow_succ', Nat.succ_eq_add_one, Nat.sub_add_cancel built.depth_pos]
  have some : 0 < 2 ^ (lut.depth - 1) := Nat.two_pow_pos _
  rw [maxRaw_eq]
  omega

theorem maxRaw_pos (built : lut.Built) : 0 < lut.maxRaw := by
  have odd := built.maxRaw_odd
  omega

theorem maxRaw_lt (built : lut.Built) : lut.maxRaw < 0x1000000 := by
  have powers : 2 ^ lut.depth ≤ 2 ^ 24 := Nat.pow_le_pow_right (by decide) built.depth_le
  rw [maxRaw_eq]
  omega

/-- A sample is shown by the number nearest to it, tabulated or not. -/
theorem get_eq (built : lut.Built) (raw : Nat) :
    lut.get raw = (rescale (min raw lut.maxRaw) lut.maxRaw).toUInt16 := by
  have inside : min raw lut.maxRaw < lut.maxRaw + 1 :=
    Nat.lt_succ_of_le (Nat.min_le_right _ _)
  unfold get
  rw [built.table_eq]
  unfold tabulate
  by_cases shallow : lut.depth ≤ maxTabulated
  · rw [if_pos shallow]
    dsimp only
    rw [Array.getElem?_ofFn]
    unfold maxRaw at inside ⊢
    rw [dif_pos inside]
  · rw [if_neg shallow]
    rfl

theorem toNat_get (built : lut.Built) (raw : Nat) :
    (lut.get raw).toNat = rescale (min raw lut.maxRaw) lut.maxRaw := by
  have le := rescale_le built.maxRaw_pos (Nat.min_le_right raw lut.maxRaw)
  have small : rescale (min raw lut.maxRaw) lut.maxRaw < UInt16.size :=
    Nat.lt_of_le_of_lt le (by decide)
  rw [built.get_eq, Nat.toUInt16_eq, UInt16.toNat_ofNat_of_lt' small]

/-- A table lists what its samples are shown by. -/
theorem values?_eq (built : lut.Built) :
    lut.values? = if lut.depth ≤ maxTabulated then
        some (Array.ofFn fun raw : Fin (2 ^ lut.depth) => lut.get raw)
      else none := by
  have size : Size.values lut.depth - 1 + 1 = 2 ^ lut.depth := by
    have powers : 0 < 2 ^ lut.depth := Nat.two_pow_pos _
    unfold Size.values
    rw [Nat.one_shiftLeft]
    omega
  unfold values?
  rw [built.table_eq]
  unfold tabulate
  by_cases shallow : lut.depth ≤ maxTabulated
  · rw [if_pos shallow, if_pos shallow, if_neg (by simp)]
    refine congrArg some (Array.ext (by simp only [Array.size_ofFn, size]) ?_)
    intro raw inside _
    have le : raw ≤ lut.maxRaw := by
      rw [Array.size_ofFn] at inside
      exact Nat.le_of_lt_succ inside
    rw [Array.getElem_ofFn, Array.getElem_ofFn, built.get_eq, Nat.min_eq_left le]
    rfl
  · rw [if_neg shallow, if_neg shallow]
    rfl

end Built

/-- **A table that rounds exactly.** -/
structure Exact (lut : QuantumTable) : Prop where
  /-- A sample is shown by the only number nearest to its fraction of the quantum. Samples beyond
  the largest are taken for it. -/
  nearest : ∀ raw : Nat,
    Nearest ((min raw (2 ^ lut.depth - 1) * quantumMax : Nat) / (2 ^ lut.depth - 1 : Nat))
      (lut.get raw).toNat
  /-- It is computed in words, where nothing overflows. -/
  fits : ∀ raw, rescale? (min raw (2 ^ lut.depth - 1)) (2 ^ lut.depth - 1) = some (lut.get raw)
  /-- Up to 16 bits there is a table, and it lists the same. -/
  tabulated : lut.values? = if lut.depth ≤ maxTabulated then
      some (Array.ofFn fun raw : Fin (2 ^ lut.depth) => lut.get raw)
    else none
  monotone : ∀ raw raw', raw ≤ raw' → lut.get raw ≤ lut.get raw'
  zero : lut.get 0 = 0
  saturated : ∀ raw, 2 ^ lut.depth - 1 ≤ raw → lut.get raw = 65535
  injective : lut.depth < 17 → ∀ raw ≤ 2 ^ lut.depth - 1, ∀ raw' ≤ 2 ^ lut.depth - 1,
    lut.get raw = lut.get raw' → raw = raw'
  surjective : 16 ≤ lut.depth → ∀ value, ∃ raw ≤ 2 ^ lut.depth - 1, lut.get raw = value

namespace Built

theorem get_le_get (built : lut.Built) {raw raw' : Nat} (le : raw ≤ raw') :
    lut.get raw ≤ lut.get raw' := by
  rw [UInt16.le_iff_toNat_le, built.toNat_get, built.toNat_get]
  refine nearestQuotient_le_nearestQuotient (Nat.mul_le_mul_right _ ?_)
  exact le_min (min_le_of_left_le le) (Nat.min_le_right _ _)

theorem get_of_le (built : lut.Built) {raw : Nat} (le : lut.maxRaw ≤ raw) :
    lut.get raw = 65535 := by
  rw [built.get_eq, Nat.min_eq_right le, rescale_self built.maxRaw_pos]
  rfl

/-- Up to 16 bits, a greater sample is shown by a greater number. -/
theorem get_lt_get (built : lut.Built) (shallow : lut.depth < 17) {raw raw' : Nat}
    (lt : raw < raw') (le : raw' ≤ lut.maxRaw) : lut.get raw < lut.get raw' := by
  have powers : 2 ^ lut.depth ≤ 2 ^ 16 :=
    Nat.pow_le_pow_right (by decide) (Nat.le_of_lt_succ shallow)
  have small : lut.maxRaw ≤ quantumMax := by
    unfold quantumMax
    rw [maxRaw_eq]
    omega
  rw [UInt16.lt_iff_toNat_lt, built.toNat_get, built.toNat_get, Nat.min_eq_left le,
    Nat.min_eq_left (lt.le.trans le)]
  exact rescale_lt_rescale built.maxRaw_pos small lt

theorem exists_get_eq (built : lut.Built) (deep : 16 ≤ lut.depth) (value : UInt16) :
    ∃ raw ≤ lut.maxRaw, lut.get raw = value := by
  have powers : 2 ^ 16 ≤ 2 ^ lut.depth := Nat.pow_le_pow_right (by decide) deep
  have large : quantumMax ≤ lut.maxRaw := by
    unfold quantumMax
    rw [maxRaw_eq]
    omega
  have le : value.toNat ≤ quantumMax := Nat.le_of_lt_succ value.toNat_lt
  obtain ⟨raw, inside, shown⟩ := exists_rescale_eq large le
  refine ⟨raw, inside, UInt16.toNat_inj.mp ?_⟩
  rw [built.toNat_get, Nat.min_eq_left inside, shown]

/-- **The table of a depth rounds exactly.** -/
theorem exact (built : lut.Built) : lut.Exact where
  nearest raw := by
    rw [← maxRaw_eq, built.toNat_get]
    exact (near_nearestQuotient _ built.maxRaw_odd).nearest
  fits raw := by
    rw [← maxRaw_eq, built.get_eq]
    exact rescale?_eq_some built.maxRaw_pos built.maxRaw_lt (Nat.min_le_right _ _)
  tabulated := built.values?_eq
  monotone _ _ le := built.get_le_get le
  zero := by
    rw [built.get_eq, Nat.zero_min, rescale_zero]
    rfl
  saturated raw le := built.get_of_le (lut.maxRaw_eq.trans_le le)
  injective shallow raw le raw' le' same := by
    rw [← maxRaw_eq] at le le'
    rcases Nat.lt_trichotomy raw raw' with lt | eq | gt
    · exact absurd same (UInt16.ne_of_lt (built.get_lt_get shallow lt le'))
    · exact eq
    · exact absurd same.symm (UInt16.ne_of_lt (built.get_lt_get shallow gt le))
  surjective deep value := lut.maxRaw_eq ▸ built.exists_get_eq deep value

end Built

/-! ## Tables in place -/

/-- Puts the table of another depth where this one is. -/
def rebuildInPlace (depth : Nat) : EStateM RasterError QuantumTable Unit := do
  let lut ← MonadState.get
  if depth = lut.depth then pure ()
  else
    let other ← ofExcept (build depth)
    set other

/-- Puts the table of one depth after another there, also behind one that failed. -/
def rebuildAll : List Nat → QuantumTable → QuantumTable
  | [], lut => lut
  | depth :: depths, lut => rebuildAll depths (behind (rebuildInPlace depth lut))

/-- **How a rebuild in place ends**: with an error, where it changed nothing, or with the table
that is built for the depth. -/
def Settles (lut : QuantumTable) (depth : Nat) : EStateM.Result RasterError QuantumTable Unit → Prop
  | .error err after =>
    after = lut ∧ err = .unsupportedDepth depth ∧ (depth = 0 ∨ maxDepth < depth)
  | .ok _ after => build depth = .ok after

/-- In place there is what `rebuild` leads to. -/
theorem rebuildInPlace_eq (depth : Nat) (lut : QuantumTable) :
    rebuildInPlace depth lut = match lut.rebuild depth with
      | .ok after => .ok () after
      | .error err => .error err lut := by
  unfold rebuildInPlace rebuild
  show (if depth = lut.depth then pure () else ofExcept (build depth) >>= set :
    EStateM RasterError QuantumTable Unit) lut = _
  by_cases same : depth = lut.depth
  · rw [if_pos same, if_pos same]
    rfl
  · rw [if_neg same, if_neg same, ofExcept_bind]
    cases build depth <;> rfl

/-- **A rebuild in place changes nothing or leads to the table of the depth.** -/
theorem Built.rebuildInPlace_settles (built : lut.Built) (depth : Nat) :
    lut.Settles depth (rebuildInPlace depth lut) := by
  rw [rebuildInPlace_eq]
  unfold rebuild
  by_cases same : depth = lut.depth
  · rw [if_pos same]
    show build depth = .ok lut
    rw [same, build_eq_ok built.depth_pos built.depth_le, ← built.table_eq]
  rw [if_neg same]
  by_cases bad : depth = 0 ∨ maxDepth < depth
  · rw [build_eq_error bad]
    exact ⟨rfl, rfl, bad⟩
  · rw [build_eq_ok (by omega) (by omega)]
    exact build_eq_ok (by omega) (by omega)

theorem Built.behind_rebuildInPlace (built : lut.Built) (depth : Nat) :
    (behind (rebuildInPlace depth lut)).Built := by
  have settles := built.rebuildInPlace_settles depth
  generalize rebuildInPlace depth lut = result at settles
  cases result with
  | ok _ after => exact (built_of_build settles).1
  | error err after =>
    show after.Built
    rw [settles.1]
    exact built

theorem Built.rebuildAll (built : lut.Built) (depths : List Nat) :
    (rebuildAll depths lut).Built := by
  induction depths generalizing lut with
  | nil => exact built
  | cons depth depths ih => exact ih (built.behind_rebuildInPlace depth)

/-- **Tables round exactly.** There is a table of every depth from 1 to 24. Wherever one of them
was rebuilt for any depths in turn, also such as there is no table of, there is a table that
rounds exactly, and the next rebuild changes nothing if it fails. -/
theorem rebuildAll_exact {depth : Nat} (pos : 1 ≤ depth) (le : depth ≤ maxDepth) :
    ∃ first, build depth = .ok first ∧ ∀ depths,
      let lut := rebuildAll depths first
      (1 ≤ lut.depth ∧ lut.depth ≤ maxDepth ∧ lut.maxRaw = 2 ^ lut.depth - 1)
        ∧ lut.Exact
        ∧ ∀ next, lut.Settles next (rebuildInPlace next lut) := by
  have found := build_eq_ok pos le
  refine ⟨_, found, fun depths => ?_⟩
  have built := (built_of_build found).1.rebuildAll depths
  exact ⟨⟨built.depth_pos, built.depth_le, maxRaw_eq _⟩, built.exact,
    built.rebuildInPlace_settles⟩

/-- Samples of two bits, behind a depth that is refused. -/
theorem rebuildAll_exact_two_bits :
    ∃ first, build 2 = .ok first ∧ first.table = #[0, 21845, 43690, 65535]
      ∧ (rebuildAll [25] first).Exact := by
  obtain ⟨first, built, exact⟩ :=
    rebuildAll_exact (show 1 ≤ 2 by decide) (show 2 ≤ maxDepth by decide)
  have table : build 2 = .ok ⟨2, #[0, 21845, 43690, 65535]⟩ := by decide
  refine ⟨first, built, ?_, (exact [25]).2.1⟩
  rw [built] at table
  rw [Except.ok.inj table]

end QuantumTable

end WpgRaster
