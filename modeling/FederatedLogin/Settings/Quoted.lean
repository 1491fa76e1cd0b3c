import FederatedLogin.Text.Digits

/-!
# Quoted strings

A string between quotes, in which a backslash begins an escape: one letter, or the number of a
character in four or eight hexadecimal digits. No control character but the tab may stand in it.
-/

namespace FederatedLogin.Settings

/-- Takes something off the front of a text, if it is there. -/
abbrev Reader (α : Type) := List Char → Option (α × List Char)

/-- The character may stand in a line as it is. -/
def isPlain (c : Char) : Bool := c = '\t' || (0x20 ≤ c.toNat && c.toNat ≠ 0x7F)

/-- The character that a letter after a backslash stands for. -/
def escaped? (c : Char) : Option Char :=
  if c = '"' ∨ c = '\\' then some c
  else if c = 'b' then some '\x08'
  else if c = 'f' then some '\x0c'
  else if c = 'n' then some '\n'
  else if c = 'r' then some '\r'
  else if c = 't' then some '\t'
  else none

/-- Reads the number of a character in so many hexadecimal digits. -/
def readCodePoint (width : Nat) : Reader Char := fun cs => do
  let digits := cs.take width
  let n ← Text.hexNumber? digits
  if digits.length = width ∧ n.isValidChar then some (Char.ofNat n, cs.drop width) else none

/-- Reads what follows a backslash. -/
def readEscape : Reader Char
  | 'u' :: cs => readCodePoint 4 cs
  | 'U' :: cs => readCodePoint 8 cs
  | c :: cs => (escaped? c).map (·, cs)
  | [] => none

/-- Reads characters up to the closing quote, given those read so far, the last one first. The
number bounds the characters still to come. -/
def readQuotedFrom : Nat → List Char → Reader String
  | 0, _, _ => none
  | _ + 1, _, [] => none
  | bound + 1, before, c :: cs =>
    if c = '"' then some (String.ofList before.reverse, cs)
    else if c = '\\' then do
      let (d, cs) ← readEscape cs
      readQuotedFrom bound (d :: before) cs
    else if isPlain c then readQuotedFrom bound (c :: before) cs
    else none

/-- Reads a string whose opening quote has been read. -/
def readQuoted : Reader String := fun cs => readQuotedFrom (cs.length + 1) [] cs

end FederatedLogin.Settings
