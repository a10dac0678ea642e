/-!
# Sizes in 64-bit words

Widths, heights and byte counts are natural numbers throughout, and the
memory they describe is addressed by 64-bit words. Two rules connect
the two: a product or a sum that does not fit a word has no value
(`mul?`, `add?`), and a request for memory beyond the address space is
refused (`allocatable`). Where a program computes a size with no check of
its own, it ends when the size has no value.

Samples are numbers of fewer bits; `values` counts them.
-/

namespace WpgRaster.Size

/-- How many values a number of so many bits has: the power of two. -/
def values (bits : Nat) : Nat := 1 <<< bits

/-- One past the largest value of a word, `values 64`. -/
def limit : Nat := 0x10000000000000000

/-- One past the largest value of a signed word, `values 63`. -/
def signedLimit : Nat := 0x8000000000000000

/-- The largest value of a word. -/
def largest : Nat := limit - 1

/-- The product of two sizes, if it fits a word. -/
def mul? (a b : Nat) : Option Nat := if a * b < limit then some (a * b) else none

/-- The sum of two sizes, if it fits a word. -/
def add? (a b : Nat) : Option Nat := if a + b < limit then some (a + b) else none

/-- Memory: requests below the size of the address space, which has
addresses of 48 bits, are granted, all others are refused. -/
def allocatable (bytes : Nat) : Bool := bytes < 0x1000000000000

/-- A number without bits has one value. -/
@[simp] theorem values_zero : values 0 = 1 := rfl

/-- One bit more doubles the values. -/
theorem values_succ (bits : Nat) : values (bits + 1) = 2 * values bits := by
  simp [values, Nat.shiftLeft_succ]

theorem values_pos (bits : Nat) : 0 < values bits := by
  induction bits with
  | zero => decide
  | succ n ih => rw [values_succ]; omega

theorem limit_eq_values : limit = values 64 := rfl

theorem signedLimit_eq_values : signedLimit = values 63 := rfl

theorem mul?_eq_some {a b n : Nat} : mul? a b = some n ↔ a * b = n ∧ n < limit := by
  unfold mul?
  split <;> simp_all <;> omega

theorem add?_eq_some {a b n : Nat} : add? a b = some n ↔ a + b = n ∧ n < limit := by
  unfold add?
  split <;> simp_all <;> omega

end WpgRaster.Size
