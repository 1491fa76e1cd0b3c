/-!
# Powers

Powers of two, which bound the words of a number of bits, and powers of ten.
-/

namespace FederatedLogin

/-- A power of two: how many values a word of so many bits has. -/
def twoPow (bits : Nat) : Nat := Nat.pow 2 bits

/-- A power of ten: how many numerals of so many digits there are. -/
def tenPow (digits : Nat) : Nat := Nat.pow 10 digits

theorem twoPow_succ (bits : Nat) : twoPow (bits + 1) = twoPow bits * 2 := rfl

theorem tenPow_succ (digits : Nat) : tenPow (digits + 1) = tenPow digits * 10 := rfl

theorem twoPow_pos (bits : Nat) : 0 < twoPow bits := by
  induction bits with
  | zero => decide
  | succ n ih => rw [twoPow_succ]; omega

/-- The values of a word of two parts are pairs of values of the parts. -/
theorem twoPow_add (a b : Nat) : twoPow (a + b) = twoPow a * twoPow b := by
  induction b with
  | zero => exact (Nat.mul_one _).symm
  | succ n ih => rw [← Nat.add_assoc, twoPow_succ, twoPow_succ, ih, Nat.mul_assoc]

end FederatedLogin
