import FederatedLogin.Power

/-!
# Digits

Decimal numerals of natural numbers and integers, and hexadecimal digits. Reading a numeral gives
the number back (`natural?_decimal`).
-/

namespace FederatedLogin.Text

/-- The value of a decimal digit. -/
def digitValue (c : Char) : Nat := c.toNat - 48

/-- The decimal digit of a number below ten. -/
def digitChar (n : Nat) : Char := Char.ofNat (48 + n % 10)

/-- The shortest decimal numeral of a number. -/
def decimal (n : Nat) : List Char :=
  if n < 10 then [digitChar n] else decimal (n / 10) ++ [digitChar n]
termination_by n

/-- The decimal numeral of an integer, with a minus sign before a negative one. -/
def decimalInt : Int → List Char
  | .ofNat n => decimal n
  | .negSucc n => '-' :: decimal (n + 1)

/-- The number that a run of digits stands for, after the digits of `acc`. -/
def valueFrom (acc : Nat) (cs : List Char) : Nat :=
  cs.foldl (fun n c => 10 * n + digitValue c) acc

/-- The number that a run of digits stands for. -/
def digitsValue (cs : List Char) : Nat := valueFrom 0 cs

/-- Reads a text that is one or more decimal digits. -/
def natural? (cs : List Char) : Option Nat :=
  if cs ≠ [] ∧ cs.all Char.isDigit then some (digitsValue cs) else none

/-- The last `width` digits of a number, with leading zeros. -/
def paddedDigits : Nat → Nat → List Char
  | 0, _ => []
  | width + 1, n => paddedDigits width (n / 10) ++ [digitChar n]

/-- The numeral with zeros before it up to the given width. -/
def padded (width n : Nat) : List Char :=
  let ds := decimal n
  List.replicate (width - ds.length) '0' ++ ds

/-- The value of a hexadecimal digit of either case. -/
def hexValue? (c : Char) : Option Nat :=
  if c.isDigit then some (c.toNat - 48)
  else if 'a' ≤ c ∧ c ≤ 'f' then some (c.toNat - 87)
  else if 'A' ≤ c ∧ c ≤ 'F' then some (c.toNat - 55)
  else none

/-- The lower case hexadecimal digit of a number below sixteen. -/
def hexDigit (n : Nat) : Char :=
  if n % 16 < 10 then Char.ofNat (48 + n % 16) else Char.ofNat (87 + n % 16)

/-- The upper case hexadecimal digit of a number below sixteen. -/
def hexDigitUpper (n : Nat) : Char :=
  if n % 16 < 10 then Char.ofNat (48 + n % 16) else Char.ofNat (55 + n % 16)

/-- The last `width` lower case hexadecimal digits of a number. -/
def hexDigits : Nat → Nat → List Char
  | 0, _ => []
  | width + 1, n => hexDigits width (n / 16) ++ [hexDigit n]

/-- The shortest lower case hexadecimal numeral of a number. -/
def hexNumeral (n : Nat) : List Char :=
  if n < 16 then [hexDigit n] else hexNumeral (n / 16) ++ [hexDigit n]
termination_by n

/-- Reads hexadecimal digits, most significant first. -/
def hexNumber? (cs : List Char) : Option Nat :=
  cs.foldlM (fun n c => (hexValue? c).map (16 * n + ·)) 0

theorem isDigit_digitChar (n : Nat) : (digitChar n).isDigit = true := by
  have h : ∀ m < 10, (Char.ofNat (48 + m)).isDigit = true := by decide
  exact h _ (Nat.mod_lt _ (by decide))

theorem digitValue_digitChar (n : Nat) : digitValue (digitChar n) = n % 10 := by
  have h : ∀ m < 10, digitValue (Char.ofNat (48 + m)) = m := by decide
  exact h _ (Nat.mod_lt _ (by decide))

theorem decimal_ne_nil (n : Nat) : decimal n ≠ [] := by
  rw [decimal]; split <;> simp

theorem isDigit_of_mem_decimal {n : Nat} {c : Char} (h : c ∈ decimal n) : c.isDigit = true := by
  induction n using decimal.induct with
  | case1 n hn => rw [decimal, if_pos hn] at h; simp at h; simp [h, isDigit_digitChar]
  | case2 n hn ih =>
    rw [decimal, if_neg hn] at h
    rcases List.mem_append.1 h with h | h
    · exact ih h
    · simp at h; simp [h, isDigit_digitChar]

theorem digitsValue_decimal (n : Nat) : digitsValue (decimal n) = n := by
  induction n using decimal.induct with
  | case1 n hn =>
    rw [decimal, if_pos hn]
    simp [digitsValue, valueFrom, digitValue_digitChar]; omega
  | case2 n hn ih =>
    rw [decimal, if_neg hn]
    rw [digitsValue, valueFrom, List.foldl_append]
    rw [digitsValue, valueFrom] at ih
    simp [ih, digitValue_digitChar]; omega

/-- Reading a numeral gives the number back. -/
theorem natural?_decimal (n : Nat) : natural? (decimal n) = some n := by
  have h : (decimal n).all Char.isDigit = true :=
    List.all_eq_true.2 fun _ hc => isDigit_of_mem_decimal hc
  simp [natural?, decimal_ne_nil, h, digitsValue_decimal]

theorem length_hexDigits (width n : Nat) : (hexDigits width n).length = width := by
  induction width generalizing n with
  | zero => rfl
  | succ w ih => simp [hexDigits, ih]

theorem hexValue?_hexDigit (n : Nat) : hexValue? (hexDigit n) = some (n % 16) := by
  have h : ∀ m < 16, hexValue? (hexDigit m) = some m := by decide
  have := h (n % 16) (Nat.mod_lt _ (by decide))
  simpa [hexDigit] using this

/-- Reading hexadecimal digits gives the number back, up to the digits that were written. -/
theorem hexNumber?_hexDigits (width n : Nat) :
    hexNumber? (hexDigits width n) = some (n % twoPow (4 * width)) := by
  induction width generalizing n with
  | zero => simp [hexDigits, hexNumber?, twoPow, Nat.mod_one]
  | succ w ih =>
    have := ih (n / 16)
    rw [hexNumber?] at this ⊢
    rw [hexDigits, List.foldlM_append, this]
    have hw : twoPow (4 * (w + 1)) = 16 * twoPow (4 * w) := by
      rw [Nat.mul_succ, twoPow_add, Nat.mul_comm]
      rfl
    simp [hexValue?_hexDigit]
    rw [hw, Nat.mod_mul]
    omega

end FederatedLogin.Text
