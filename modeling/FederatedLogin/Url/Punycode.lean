import FederatedLogin.Text.Split

/-!
# Punycode

Texts beyond ASCII in letters, digits and hyphens, after RFC 3492. The ASCII characters come first,
and after the last hyphen the others, in ascending order, as the steps between their places. A step
is a number in base 36 with its lowest digit first; which digit ends it depends on a bias, which
follows the size of the steps so far.
-/

namespace FederatedLogin.Url.Punycode

/-! ## Digits -/

/-- The digit of a number below 36. -/
def digit (n : Nat) : Char := Char.ofNat (if n < 26 then 97 + n else 22 + n)

/-- The number of a digit. -/
def digitNumber? (c : Char) : Option Nat :=
  if c.isLower then some (c.toNat - 97)
  else if c.isUpper then some (c.toNat - 65)
  else if c.isDigit then some (c.toNat - 22)
  else none

/-- A digit below this one ends a step, if it stands at the given place. -/
def threshold (place bias : Nat) : Nat := min 26 (max 1 (36 * (place + 1) - bias))

theorem threshold_pos (place bias : Nat) : 0 < threshold place bias := by
  simp only [threshold]
  omega

/-! ## Bias -/

/-- Brings a step down by factors of 35, counting them. -/
def reduce (step count : Nat) : Nat × Nat :=
  if 455 < step then reduce (step / 35) (count + 1) else (step, count)
termination_by step

/-- The bias after a step, by which a text grew to the given length. -/
def bias (step length : Nat) (first : Bool) : Nat :=
  let step := if first then step / 700 else step / 2
  let (step, count) := reduce (step + step / length) 0
  36 * count + 36 * step / (step + 38)

/-! ## Writing -/

/-- The digits of a step from a place on. -/
def stepDigits (bias place n : Nat) : List Char :=
  let t := threshold place bias
  if n < t then [digit n]
  else digit (t + (n - t) % (36 - t)) :: stepDigits bias (place + 1) ((n - t) / (36 - t))
termination_by n
decreasing_by
  have h := threshold_pos place bias
  exact Nat.lt_of_le_of_lt (Nat.div_le_self _ _) (by omega)

/-- What writing has come to. -/
structure Writer where
  /-- The step to the next character, as far as it is known. -/
  step : Nat
  bias : Nat
  /-- How many characters are written. -/
  length : Nat
  digits : List Char := []

/-- Passes one character of the text, and writes it if it has the given number. -/
def Writer.pass (n : Nat) (w : Writer) (c : Char) : Writer :=
  if c.toNat < n then { w with step := w.step + 1 }
  else if c.toNat = n then
    { step := 0
      bias := Punycode.bias w.step (w.length + 1) (w.digits = [])
      length := w.length + 1
      digits := w.digits ++ stepDigits w.bias 0 w.step }
  else w

/-- Writes the characters of each number in turn. The numbers ascend, from a start on. -/
def Writer.write (text : List Char) (w : Writer) (start : Nat) : List Nat → Writer
  | [] => w
  | n :: ns =>
    let w := { w with step := w.step + (n - start) * (w.length + 1) }
    let w := text.foldl (Writer.pass n) w
    Writer.write text { w with step := w.step + 1 } (n + 1) ns

/-- The character is one of ASCII. -/
def isAscii (c : Char) : Bool := c.toNat < 0x80

/-- A text in letters, digits and hyphens. -/
def encode (cs : List Char) : List Char :=
  let ascii := cs.filter isAscii
  let numbers := (((cs.filter fun c => ¬ isAscii c).map Char.toNat).mergeSort (· ≤ ·)).eraseDups
  let w := Writer.write cs ⟨0, 72, ascii.length, []⟩ 0x80 numbers
  ascii ++ (if ascii = [] then [] else ['-']) ++ w.digits

/-! ## Reading -/

/-- Reads the digits of a step from a place on, which has a weight. -/
def readStep? (bias place weight : Nat) : List Char → Option (Nat × List Char)
  | [] => none
  | c :: cs => do
    let d ← digitNumber? c
    let t := threshold place bias
    if d < t then some (d * weight, cs)
    else
      let (n, cs) ← readStep? bias (place + 1) (weight * (36 - t)) cs
      some (d * weight + n, cs)

/-- Reads steps and puts the characters that they lead to into the text: the place and the number
of the last one are known. The number bounds the steps. -/
def readSteps? : Nat → Nat → Nat → Nat → List Char → List Char → Option (List Char)
  | 0, _, _, _, _, _ => none
  | _ + 1, _, _, _, text, [] => some text
  | bound + 1, bias, place, n, text, c :: cs => do
    let (step, cs) ← readStep? bias 0 1 (c :: cs)
    let length := text.length + 1
    let n := n + (place + step) / length
    let place := (place + step) % length
    if n.isValidChar then
      readSteps? bound (Punycode.bias step length (text.all isAscii)) (place + 1) n
        (text.insertIdx place (Char.ofNat n)) cs
    else none

/-- The text that is written in letters, digits and hyphens. -/
def decode? (cs : List Char) : Option (List Char) :=
  let digits := (cs.reverse.takeWhile (· ≠ '-')).reverse
  let ascii := (cs.take (cs.length - digits.length)).dropLast
  if ascii.all isAscii then readSteps? (digits.length + 1) 72 0 0x80 ascii digits else none

end FederatedLogin.Url.Punycode
