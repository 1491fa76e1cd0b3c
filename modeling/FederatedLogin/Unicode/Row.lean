import FederatedLogin.Text.Digits
import FederatedLogin.Text.Split

/-!
# Tables of characters

Properties of characters are written as rows with spaces or line ends between them. A row names
one character by its number in hexadecimal digits, a run of characters by the first and the last
one with a hyphen between them, or every second character of a run with a tilde. What they are
mapped to follows after `>`: one number, to which the distance from the first character of the row
is added, or several, with commas between them.
-/

namespace FederatedLogin.Unicode

open Text

/-- A row of a table: characters at equal steps, and what they are mapped to. -/
structure Row where
  first : Nat
  last : Nat
  step : Nat
  targets : List Nat
  deriving Repr

namespace Row

/-- The row is about the character of the number. -/
def contains (r : Row) (n : Nat) : Bool :=
  r.first ≤ n && n ≤ r.last && (n - r.first) % r.step = 0

/-- What the row maps a character to. -/
def mapped (r : Row) (n : Nat) : List Nat :=
  match r.targets with
  | [t] => [t + (n - r.first)]
  | ts => ts

/-- Reads the characters of a row. -/
def readCharacters? (cs : List Char) (targets : List Nat) : Option Row :=
  match cut? '-' cs, cut? '~' cs with
  | some (a, b), _ => do some ⟨← hexNumber? a, ← hexNumber? b, 1, targets⟩
  | none, some (a, b) => do some ⟨← hexNumber? a, ← hexNumber? b, 2, targets⟩
  | none, none => do
    let n ← hexNumber? cs
    some ⟨n, n, 1, targets⟩

/-- Reads a row. -/
def read? (cs : List Char) : Option Row :=
  match cut? '>' cs with
  | none => readCharacters? cs []
  | some (a, b) => do readCharacters? a (← (pieces ',' b).mapM hexNumber?)

end Row

/-- The rows of a table. -/
def rows (text : String) : List Row :=
  (((pieces '\n' text.toList).flatMap (pieces ' ')).filter (· ≠ [])).filterMap Row.read?

/-- The row about a character, if there is one. -/
def row? (table : List Row) (c : Char) : Option Row := table.find? (·.contains c.toNat)

/-- The table has a row about the character. -/
def holds (table : List Row) (c : Char) : Bool := (row? table c).isSome

end FederatedLogin.Unicode
