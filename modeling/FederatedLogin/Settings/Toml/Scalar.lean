import FederatedLogin.Power
import FederatedLogin.Settings.Entry
import FederatedLogin.Settings.Toml.Text

/-!
# Numbers and dates of TOML

Integers have 64 bits, in base ten, sixteen, eight or two. Single underscores may stand between
digits. A date, a time of day or both together are a table with one reserved name, as no setting
is one of them.
-/

namespace FederatedLogin.Settings.Toml

/-! ## Digits -/

/-- Reads digits with single underscores between them, after a first digit. -/
def readMoreDigits (isDigit : Char → Bool) : Reader (List Char)
  | '_' :: c :: cs =>
    if isDigit c then (readMoreDigits isDigit cs).map fun (ds, cs) => (c :: ds, cs) else none
  | c :: cs =>
    if isDigit c then (readMoreDigits isDigit cs).map fun (ds, cs) => (c :: ds, cs)
    else some ([], c :: cs)
  | [] => some ([], [])

/-- Reads one or more digits with single underscores between them. -/
def readDigits (isDigit : Char → Bool) : Reader (List Char)
  | c :: cs =>
    if isDigit c then (readMoreDigits isDigit cs).map fun (ds, cs) => (c :: ds, cs) else none
  | [] => none

/-- Reads the sign of a number, if there is one: whether it is a minus. -/
def readSign : List Char → Bool × List Char
  | '-' :: cs => (true, cs)
  | '+' :: cs => (false, cs)
  | cs => (false, cs)

/-- Reads digits of which none is a leading zero. -/
def readWhole : Reader (List Char)
  | '0' :: cs => some (['0'], cs)
  | cs => readDigits Char.isDigit cs

/-! ## Integers -/

/-- The digits of a base as a number. -/
def valueIn (base : Nat) (ds : List Char) : Nat :=
  ds.foldl (fun n c => base * n + (Text.hexValue? c).getD 0) 0

/-- The integer, if it has 64 bits. -/
def word? (n : Int) : Option Entry :=
  if -(twoPow 63) ≤ n ∧ n < twoPow 63 then some (.integer n) else none

/-- Reads the digits of a base. -/
def readBased (base : Nat) : Reader Entry := fun cs => do
  let (ds, cs) ← readDigits (fun c => (Text.hexValue? c).any (· < base)) cs
  some (← word? (valueIn base ds), cs)

/-- Reads an integer. -/
def readInteger : Reader Entry
  | '0' :: 'x' :: cs => readBased 16 cs
  | '0' :: 'o' :: cs => readBased 8 cs
  | '0' :: 'b' :: cs => readBased 2 cs
  | cs => do
    let (minus, cs) := readSign cs
    let (ds, cs) ← readWhole cs
    let n := valueIn 10 ds
    some (← word? (if minus then -n else n), cs)

/-! ## Numbers with a fraction -/

/-- Reads a point and the digits after it. -/
def readDecimals : Reader (List Char)
  | '.' :: cs => readDigits Char.isDigit cs
  | _ => none

/-- Reads a power of ten. -/
def readPower : Reader Int
  | c :: cs => do
    if c ≠ 'e' ∧ c ≠ 'E' then none
    let (minus, cs) := readSign cs
    let (ds, cs) ← readDigits Char.isDigit cs
    let n := valueIn 10 ds
    some (if minus then -n else n, cs)
  | [] => none

/-- The product of a number and a power of ten is too large for a double precision number: it is
at least halfway from the largest one to the next power of two. -/
def overflows (ds : List Char) (power : Int) : Bool :=
  let m := valueIn 10 ds
  if m = 0 ∨ power + ds.length ≤ 0 then false
  else if 0 ≤ power then 400 < power || twoPow 1024 - twoPow 970 ≤ m * tenPow power.toNat
  else (twoPow 1024 - twoPow 970) * tenPow (-power).toNat ≤ m

/-- Reads a number with a fraction or a power of ten. -/
def readFraction : Reader Entry := fun cs => do
  let (minus, cs) := readSign cs
  let (whole, cs) ← readWhole cs
  let (decimals, power, cs) ←
    match readDecimals cs with
    | some (decimals, cs) =>
      let (power, cs) := (readPower cs).getD (0, cs)
      some (decimals, power, cs)
    | none => (readPower cs).map fun (power, cs) => ([], power, cs)
  if overflows (whole ++ decimals) (power - decimals.length) ∧ ¬ minus then none
  else some (.fraction, cs)

/-- Reads infinity, or what is no number. -/
def readSpecial : Reader Entry := fun cs =>
  match (readSign cs).2 with
  | 'i' :: 'n' :: 'f' :: cs => some (.fraction, cs)
  | 'n' :: 'a' :: 'n' :: cs => some (.fraction, cs)
  | _ => none

/-! ## Dates and times of day -/

/-- Reads so many digits as a number within bounds. -/
def readField (width low high : Nat) : Reader Nat := fun cs =>
  let ds := cs.take width
  let n := Text.digitsValue ds
  if ds.length = width ∧ ds.all Char.isDigit ∧ low ≤ n ∧ n ≤ high then some (n, cs.drop width)
  else none

/-- Reads a given character. -/
def readMark (mark : Char) : Reader Unit
  | c :: cs => if c = mark then some ((), cs) else none
  | [] => none

/-- The number of days of a month. -/
def daysOf (year month : Nat) : Nat :=
  if month = 2 then if year % 4 = 0 ∧ (year % 100 ≠ 0 ∨ year % 400 = 0) then 29 else 28
  else if month ∈ [4, 6, 9, 11] then 30
  else 31

/-- Reads a date. -/
def readDate : Reader Unit := fun cs => do
  let (year, cs) ← readField 4 0 9999 cs
  let ((), cs) ← readMark '-' cs
  let (month, cs) ← readField 2 1 12 cs
  let ((), cs) ← readMark '-' cs
  let (_, cs) ← readField 2 1 (daysOf year month) cs
  some ((), cs)

/-- Reads a time of day. -/
def readTime : Reader Unit := fun cs => do
  let (_, cs) ← readField 2 0 23 cs
  let ((), cs) ← readMark ':' cs
  let (_, cs) ← readField 2 0 59 cs
  let ((), cs) ← readMark ':' cs
  let (_, cs) ← readField 2 0 60 cs
  match cs with
  | '.' :: c :: rest => if c.isDigit then some ((), rest.dropWhile Char.isDigit) else some ((), cs)
  | cs => some ((), cs)

/-- The text without the distance from universal time that it may start with. -/
def skipOffset (cs : List Char) : Option (List Char) :=
  match cs with
  | c :: rest =>
    if c = 'Z' ∨ c = 'z' then some rest
    else if c = '+' ∨ c = '-' then do
      let (_, rest) ← readField 2 0 23 rest
      let ((), rest) ← readMark ':' rest
      let (_, rest) ← readField 2 0 59 rest
      some rest
    else some cs
  | [] => some []

/-- The reserved name of the only member of a date. -/
def momentName : String := "$date"

/-- Reads a date, a time of day, or both. -/
def readMoment : Reader Entry := fun cs =>
  let moment := Entry.table [(momentName, .text "")]
  match readDate cs with
  | none => (readTime cs).map fun ((), cs) => (moment, cs)
  | some ((), cs) =>
    match cs with
    | c :: rest =>
      if c = 'T' ∨ c = 't' ∨ c = ' ' then
        match readTime rest with
        | none => some (moment, cs)
        | some ((), cs) => (skipOffset cs).map (moment, ·)
      else some (moment, cs)
    | [] => some (moment, cs)

/-! ## Scalars -/

/-- Reads a number or a date. -/
def readNumeric : Reader Entry := fun cs =>
  (readMoment cs).or ((readFraction cs).or ((readSpecial cs).or (readInteger cs)))

/-- Reads a value that is no list and no table. -/
def readScalar : Reader Entry
  | 't' :: 'r' :: 'u' :: 'e' :: cs => some (.flag true, cs)
  | 'f' :: 'a' :: 'l' :: 's' :: 'e' :: cs => some (.flag false, cs)
  | cs => ((readString cs).map fun (s, cs) => (.text s, cs)).or (readNumeric cs)

end FederatedLogin.Settings.Toml
