import FederatedLogin.Json.Number

/-!
# Reading JSON

A reader takes a value off the front of a text and gives the rest of it. Values that are kept are
read with care: strings hold no half of a surrogate pair, numbers are in range, and containers nest
no deeper than `maxDepth`. Values that are passed over only have to be well formed.
-/

namespace FederatedLogin.Json

/-- Why a text is refused: it is no JSON, or its values are not the expected ones. -/
inductive Fault where
  | malformed
  | mismatch
  deriving DecidableEq, Repr

/-- Takes something off the front of a text. -/
abbrev Reader (α : Type) := List Char → Except Fault (α × List Char)

/-- What becomes of a value once it is read. -/
inductive Purpose where
  | keep
  | skip
  deriving DecidableEq, Repr

/-- The four characters that may stand between tokens. -/
def isSpace (c : Char) : Bool := c = ' ' || c = '\n' || c = '\t' || c = '\r'

/-- The text without the space in front of it. -/
def skipSpace (cs : List Char) : List Char := cs.dropWhile isSpace

/-! ## Strings -/

/-- The character that a letter after a backslash stands for. -/
def unescapeLetter? (c : Char) : Option Char :=
  if c = '"' ∨ c = '\\' ∨ c = '/' then some c
  else if c = 'b' then some '\x08'
  else if c = 'f' then some '\x0c'
  else if c = 'n' then some '\n'
  else if c = 'r' then some '\r'
  else if c = 't' then some '\t'
  else none

/-- Reads the four hexadecimal digits of an escape. -/
def readCodeUnit : Reader Nat
  | a :: b :: c :: d :: cs =>
    match Text.hexNumber? [a, b, c, d] with
    | some n => .ok (n, cs)
    | none => .error .malformed
  | _ => .error .malformed

/-- Reads what follows a code unit which begins a surrogate pair. -/
def readLowSurrogate (high : Nat) : Reader Char
  | '\\' :: 'u' :: cs => do
    let (low, cs) ← readCodeUnit cs
    if 0xDC00 ≤ low ∧ low ≤ 0xDFFF then
      .ok (Char.ofNat (0x10000 + (high - 0xD800) * 0x400 + (low - 0xDC00)), cs)
    else .error .malformed
  | _ => .error .malformed

/-- Reads what follows a backslash. -/
def readEscape (purpose : Purpose) : Reader Char
  | 'u' :: cs => do
    let (n, cs) ← readCodeUnit cs
    if 0xD800 ≤ n ∧ n ≤ 0xDFFF then
      match purpose with
      | .skip => .ok ('\uFFFD', cs)
      | .keep => if n ≤ 0xDBFF then readLowSurrogate n cs else .error .malformed
    else .ok (Char.ofNat n, cs)
  | c :: cs =>
    match unescapeLetter? c with
    | some d => .ok (d, cs)
    | none => .error .malformed
  | [] => .error .malformed

/-- Reads a string up to its closing quote, given the characters read so far, the last one first.
The number bounds the characters still to come. -/
def readCharacters (purpose : Purpose) : Nat → List Char → Reader String
  | 0, _, _ => .error .malformed
  | _ + 1, _, [] => .error .malformed
  | bound + 1, before, c :: cs =>
    if c = '"' then .ok (String.ofList before.reverse, cs)
    else if c = '\\' then do
      let (d, cs) ← readEscape purpose cs
      readCharacters purpose bound (d :: before) cs
    else if c.toNat < 0x20 then .error .malformed
    else readCharacters purpose bound (c :: before) cs

/-- Reads a string whose opening quote has been read. -/
def readString (purpose : Purpose) : Reader String := fun cs =>
  readCharacters purpose (cs.length + 1) [] cs

/-! ## Values -/

/-- Reads a literal name whose first letter has been seen. -/
def readWord (word : List Char) (value : Value) : Reader Value := fun cs =>
  if word.isPrefixOf cs then .ok (value, cs.drop word.length) else .error .malformed

/-- Reads a number. One that is kept has to be in range. -/
def readNumber (purpose : Purpose) : Reader Value := fun cs =>
  match Number.read? cs with
  | none => .error .malformed
  | some (n, cs) =>
    if purpose = .keep ∧ n.inRange = false then .error .malformed else .ok (n.value, cs)

/-- Reads the items of an array after the first one, up to the closing bracket. -/
def readMoreItems (item : Reader Value) : Nat → List Value → Reader (List Value)
  | 0, _, _ => .error .malformed
  | bound + 1, before, cs =>
    match skipSpace cs with
    | ']' :: cs => .ok (before.reverse, cs)
    | ',' :: cs => do
      let (v, cs) ← item cs
      readMoreItems item bound (v :: before) cs
    | _ => .error .malformed

/-- Reads the items of an array whose opening bracket has been read. -/
def readItems (item : Reader Value) : Reader (List Value) := fun cs =>
  match skipSpace cs with
  | ']' :: cs => .ok ([], cs)
  | cs => do
    let (v, cs) ← item cs
    readMoreItems item (cs.length + 1) [v] cs

/-- Reads the colon between a name and its value. -/
def readColon : Reader Unit := fun cs =>
  match skipSpace cs with
  | ':' :: cs => .ok ((), cs)
  | _ => .error .malformed

/-- Reads one member of an object. -/
def readMember (purpose : Purpose) (item : Reader Value) : Reader (String × Value) := fun cs =>
  match skipSpace cs with
  | '"' :: cs => do
    let (name, cs) ← readString purpose cs
    let ((), cs) ← readColon cs
    let (v, cs) ← item cs
    .ok ((name, v), cs)
  | _ => .error .malformed

/-- Reads the members of an object after the first one, up to the closing brace. -/
def readMoreMembers (member : Reader (String × Value)) :
    Nat → List (String × Value) → Reader (List (String × Value))
  | 0, _, _ => .error .malformed
  | bound + 1, before, cs =>
    match skipSpace cs with
    | '}' :: cs => .ok (before.reverse, cs)
    | ',' :: cs => do
      let (m, cs) ← member cs
      readMoreMembers member bound (m :: before) cs
    | _ => .error .malformed

/-- Reads the members of an object whose opening brace has been read. -/
def readMembers (member : Reader (String × Value)) : Reader (List (String × Value)) := fun cs =>
  match skipSpace cs with
  | '}' :: cs => .ok ([], cs)
  | cs => do
    let (m, cs) ← member cs
    readMoreMembers member (cs.length + 1) [m] cs

/-- Reads a value, given the reader of the values inside it. Without one, the value may not be a
container. -/
def readNode (purpose : Purpose) (inner : Option (Reader Value)) : Reader Value := fun cs =>
  match skipSpace cs with
  | [] => .error .malformed
  | c :: rest =>
    if c = '"' then do
      let (s, cs) ← readString purpose rest
      .ok (.string s, cs)
    else if c = 'n' then readWord "null".toList .null (c :: rest)
    else if c = 't' then readWord "true".toList (.bool true) (c :: rest)
    else if c = 'f' then readWord "false".toList (.bool false) (c :: rest)
    else if c = '[' then
      match inner with
      | none => .error .malformed
      | some item => do
        let (items, cs) ← readItems item rest
        .ok (.array items, cs)
    else if c = '{' then
      match inner with
      | none => .error .malformed
      | some item => do
        let (members, cs) ← readMembers (readMember purpose item) rest
        .ok (.object members, cs)
    else readNumber purpose (c :: rest)

/-- Reads a value whose containers nest at most as deep as the number says. -/
def readValue (purpose : Purpose) : Nat → Reader Value
  | 0 => readNode purpose none
  | depth + 1 => readNode purpose (some (readValue purpose depth))

/-- How deep the containers of a value that is kept may nest. -/
def maxDepth : Nat := 127

/-- Passes over a value, however deep its containers nest. -/
def skipValue : Reader Unit := fun cs => do
  let (_, cs) ← readValue .skip cs.length cs
  .ok ((), cs)

/-- A text that holds one value, with nothing but space around it. -/
def readAll {α : Type} (reader : Reader α) (text : String) : Except Fault α := do
  let (a, cs) ← reader text.toList
  if skipSpace cs = [] then .ok a else .error .malformed

/-- Reads a text that is one value. -/
def parse (text : String) : Except Fault Value := readAll (readValue .keep maxDepth) text

end FederatedLogin.Json
