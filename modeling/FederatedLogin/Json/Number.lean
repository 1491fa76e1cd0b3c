import FederatedLogin.Json.Value
import FederatedLogin.Power

/-!
# JSON numbers

A number literal is read into its parts. An integer literal of 64 bits is an integer value; every
other literal is a fraction. A literal whose value is too large for a double precision number is
out of range (`Number.inRange`). What counts there are the digits that fit a word of 64 bits, and
the power of ten of the last one.
-/

namespace FederatedLogin.Json

/-- The parts of a number literal. -/
structure Number where
  negative : Bool
  whole : List Char
  /-- The digits after the point. -/
  decimals : List Char
  /-- The power of ten after the letter `e`: whether it is negative, and its digits. -/
  exponent : Option (Bool × List Char)

namespace Number

/-- The literal that the parts make. -/
def literal (n : Number) : List Char :=
  (if n.negative then ['-'] else []) ++ n.whole
    ++ (if n.decimals = [] then [] else '.' :: n.decimals)
    ++ (match n.exponent with
      | none => []
      | some (below, digits) => 'e' :: (if below then '-' else '+') :: digits)

/-- Reads the whole part of a literal: digits, of which none is a leading zero. -/
def readWhole? (cs : List Char) : Option (List Char × List Char) :=
  match cs.span Char.isDigit with
  | ([], _) => none
  | ('0' :: _ :: _, _) => none
  | (digits, rest) => some (digits, rest)

/-- Reads a point and the digits after it, if there is a point. -/
def readDecimals? (cs : List Char) : Option (List Char × List Char) :=
  match cs with
  | '.' :: cs =>
    match cs.span Char.isDigit with
    | ([], _) => none
    | (digits, rest) => some (digits, rest)
  | cs => some ([], cs)

/-- Reads a power of ten, if there is one. -/
def readExponent? (cs : List Char) : Option (Option (Bool × List Char) × List Char) :=
  let digits? (below : Bool) (cs : List Char) :=
    match cs.span Char.isDigit with
    | ([], _) => none
    | (digits, rest) => some (some (below, digits), rest)
  match cs with
  | c :: cs =>
    if c = 'e' ∨ c = 'E' then
      match cs with
      | '-' :: cs => digits? true cs
      | '+' :: cs => digits? false cs
      | cs => digits? false cs
    else some (none, c :: cs)
  | [] => some (none, [])

/-- Reads a number literal off the front of a text. -/
def read? (cs : List Char) : Option (Number × List Char) := do
  let (negative, cs) :=
    match cs with
    | '-' :: cs => (true, cs)
    | cs => (false, cs)
  let (whole, cs) ← readWhole? cs
  let (decimals, cs) ← readDecimals? cs
  let (exponent, cs) ← readExponent? cs
  some (⟨negative, whole, decimals, exponent⟩, cs)

/-! ## Range -/

/-- The number rounded to 53 significant bits, halves to the even neighbour. -/
def roundToDouble (n : Nat) : Nat :=
  if n < twoPow 53 then n
  else
    let unit := twoPow (n.log2 - 52)
    let q := n / unit
    let r := n % unit
    if 2 * r < unit then q * unit
    else if 2 * r > unit then (q + 1) * unit
    else if q % 2 = 0 then q * unit else (q + 1) * unit

/-- The least number that rounds beyond the largest double precision number. -/
def doubleLimit : Nat := twoPow 1024 - twoPow 970

/-- The digits that fit a word of 64 bits, as a number, and the digits left over. -/
def significand (acc : Nat) : List Char → Nat × List Char
  | [] => (acc, [])
  | c :: cs =>
    let next := 10 * acc + Text.digitValue c
    if next < twoPow 64 then significand next cs else (acc, c :: cs)

/-- The digits that count, as a number, and the power of ten of the last of them. -/
def scaled (n : Number) : Nat × Int :=
  match significand 0 n.whole with
  | (m, []) =>
    let (m, left) := significand m n.decimals
    (m, (left.length : Int) - n.decimals.length)
  | (m, left) => match significand m n.decimals with
    | (m, dropped) => (m, left.length + (dropped.length : Int) - n.decimals.length)

/-- The literal stands for a number that double precision can hold. -/
def inRange (n : Number) : Bool :=
  let (m, e) := n.scaled
  match n.exponent with
  | none => fits m e
  | some (below, digits) =>
    let power := Text.digitsValue digits
    if power < twoPow 31 then fits m (if below then e - power else e + power)
    else below || m == 0
where
  /-- The product of a number and a power of ten is not too large. -/
  fits (m : Nat) (e : Int) : Bool :=
    if m = 0 ∨ e < 0 then true
    else if 308 < e then false
    else roundToDouble m * roundToDouble (tenPow e.toNat) < doubleLimit

/-- The value of a literal: an integer if it is written as one and fits 64 bits. Zero with a sign
counts as a fraction. -/
def value (n : Number) : Value :=
  if n.decimals = [] ∧ n.exponent.isNone then
    let m := Text.digitsValue n.whole
    if n.negative then
      if 0 < m ∧ m ≤ twoPow 63 then .integer (-m) else .fraction (String.ofList n.literal)
    else if m < twoPow 64 then .integer m else .fraction (String.ofList n.literal)
  else .fraction (String.ofList n.literal)

end Number

end FederatedLogin.Json
