import FederatedLogin.Text.Blank
import FederatedLogin.Text.Digits
import FederatedLogin.Time.Instant

/-!
# Written instants

`Instant.text` writes an instant as RFC 3339 in UTC, with as few of 0, 3, 6 or 9 digits after the
second as lose nothing. Years outside 0 to 9999 carry a sign. `Instant.parse?` also reads shorter
numbers, other offsets from UTC, and white space around the parts.
-/

namespace FederatedLogin.Time

open FederatedLogin.Text

/-! ## Writing -/

/-- A year: four digits, or a sign and at least four digits. -/
def yearText (year : Int) : List Char :=
  if 0 ≤ year ∧ year ≤ 9999 then padded 4 year.toNat
  else (if year < 0 then '-' else '+') :: padded 4 year.natAbs

/-- A part of a second, with a point before it, in as few thousands as possible. -/
def subsecondText (nanos : Nat) : List Char :=
  if nanos = 0 then []
  else if nanos % 1000000 = 0 then '.' :: paddedDigits 3 (nanos / 1000000)
  else if nanos % 1000 = 0 then '.' :: paddedDigits 6 (nanos / 1000)
  else '.' :: paddedDigits 9 nanos

/-- An instant in UTC. A leap second is second 60 of its minute. -/
def Instant.text (t : Instant) : List Char :=
  let date := Date.ofDays (t.seconds / secondsPerDay)
  let second := (t.seconds % secondsPerDay).toNat
  let leap := if t.nanos < nanosPerSecond then 0 else 1
  yearText date.year ++ '-' :: padded 2 date.month ++ '-' :: padded 2 date.day
    ++ 'T' :: padded 2 (second / 3600) ++ ':' :: padded 2 (second / 60 % 60)
    ++ ':' :: padded 2 (second % 60 + leap) ++ subsecondText (t.nanos % nanosPerSecond) ++ ['Z']

/-- An instant in UTC as a string. -/
def Instant.render (t : Instant) : String := String.ofList t.text

/-! ## Reading -/

/-- Reads a number of at least one and at most the given count of digits. -/
def readNumber? (width : Nat) (cs : List Char) : Option (Nat × List Char) :=
  let digits := (cs.take width).takeWhile Char.isDigit
  if digits = [] then none else some (digitsValue digits, cs.drop digits.length)

/-- Reads a year: up to four digits, or a sign and any digits. -/
def readYear? (cs : List Char) : Option (Int × List Char) :=
  match trimLeft cs with
  | '-' :: cs => (readNumber? cs.length cs).map fun (n, cs) => (-n, cs)
  | '+' :: cs => (readNumber? cs.length cs).map fun (n, cs) => (n, cs)
  | cs => (readNumber? 4 cs).map fun (n, cs) => (n, cs)

/-- Reads a number of one or two digits. -/
def readTwo? (cs : List Char) : Option (Nat × List Char) := readNumber? 2 (trimLeft cs)

/-- Reads one given character. -/
def readMark? (mark : Char) (cs : List Char) : Option (List Char) :=
  match trimLeft cs with
  | c :: cs => if c = mark then some cs else none
  | [] => none

/-- Reads the digits after a point as nanoseconds, if there is a point. Digits after the ninth do
not count. -/
def readSubsecond? : List Char → Option (Nat × List Char)
  | '.' :: cs =>
    let digits := (cs.take 9).takeWhile Char.isDigit
    if digits = [] then none
    else
      some (digitsValue digits * tenPow (9 - digits.length),
        (cs.drop digits.length).dropWhile Char.isDigit)
  | cs => some (0, cs)

/-- Reads hours and minutes of an offset, as seconds. -/
def readOffsetSize? (cs : List Char) : Option (Int × List Char) :=
  match cs with
  | a :: b :: cs =>
    match cs.dropWhile (fun c => c = ':' || isBlank c) with
    | c :: d :: cs =>
      if a.isDigit && b.isDigit && c.isDigit && d.isDigit && c ≤ '5' then
        some (digitsValue [a, b] * 3600 + digitsValue [c, d] * 60, cs)
      else none
    | _ => none
  | _ => none

/-- Reads an offset from UTC in seconds. -/
def readOffset? (cs : List Char) : Option (Int × List Char) :=
  match cs with
  | a :: b :: c :: rest =>
    if [a.toUpper, b.toUpper, c.toUpper] = ['U', 'T', 'C'] then some (0, rest)
    else signed (a :: b :: c :: rest)
  | cs => signed cs
where
  /-- Reads `Z`, or a sign and the size of the offset. -/
  signed : List Char → Option (Int × List Char)
    | [] => none
    | c :: cs =>
      if c = 'Z' ∨ c = 'z' then some (0, cs)
      else if c = '+' then readOffsetSize? cs
      else if c = '-' ∨ c = '−' then (readOffsetSize? cs).map fun (n, cs) => (-n, cs)
      else none

/-- The instant at which a clock shows a date and a time of day, being ahead of UTC by the given
number of seconds. Second 60 is a leap second. -/
def instantOf? (date : Date) (hour minute second nanos : Nat) (ahead : Int) : Option Instant :=
  if date.isValid && hour < 24 && minute < 60 && second ≤ 60 && ahead.natAbs < secondsPerDay then do
    let seconds := date.toDays * secondsPerDay + hour * 3600 + minute * 60
    if second = 60 then
      let shown ← Instant.of? (seconds + 59) (nanos + nanosPerSecond)
      Instant.of? (shown.seconds - ahead) shown.nanos
    else
      let shown ← Instant.of? (seconds + second) nanos
      Instant.of? (shown.seconds - ahead) shown.nanos
  else none

/-- Reads an instant. -/
def Instant.read? (cs : List Char) : Option Instant := do
  let (year, cs) ← readYear? cs
  let cs ← readMark? '-' cs
  let (month, cs) ← readTwo? cs
  let cs ← readMark? '-' cs
  let (day, cs) ← readTwo? cs
  let cs ←
    match cs with
    | c :: cs => if c = 'T' ∨ c = 't' ∨ c = ' ' then some cs else none
    | [] => none
  let (hour, cs) ← readTwo? cs
  let cs ← readMark? ':' cs
  let (minute, cs) ← readTwo? cs
  let cs ← readMark? ':' cs
  let (second, cs) ← readTwo? cs
  let (nanos, cs) ← readSubsecond? cs
  let (ahead, cs) ← readOffset? (trimLeft cs)
  if trimLeft cs = [] then instantOf? ⟨year, month, day⟩ hour minute second nanos ahead else none

/-- Reads an instant from a string. -/
def Instant.parse? (s : String) : Option Instant := Instant.read? s.toList

end FederatedLogin.Time
