import FederatedLogin.Power
import FederatedLogin.Settings.Entry
import FederatedLogin.Settings.Quoted
import FederatedLogin.Text.Blank
import FederatedLogin.Text.Split

/-!
# Settings in environment variables

A variable whose name starts with `IDLINK_`, in either case, holds a setting. The rest of the name
is the path to the setting, in lower case, with two underscores between each two names. The value
is a truth value, a number, a quoted string, a character, a list or a table, and otherwise a
string, without space around it.
-/

namespace FederatedLogin.Settings

/-! ## Names -/

/-- A name in lower case. -/
def lowerCase (cs : List Char) : List Char := cs.map Char.toLower

/-- The text with a point for each two underscores. -/
def joints : List Char → List Char
  | '_' :: '_' :: cs => '.' :: joints cs
  | c :: cs => c :: joints cs
  | [] => []

/-- The path to the setting that a variable holds, if it holds one. -/
def variablePath? (name : String) : Option (List String) :=
  let cs := lowerCase (Text.trim name.toList)
  let start := "idlink_".toList
  let names := Text.pieces '.' (joints (cs.drop start.length))
  if start.isPrefixOf cs ∧ [] ∉ names then some (names.map String.ofList) else none

/-! ## Numbers -/

/-- Reads an integer of 64 bits, with or without a sign. -/
def integerOf? (cs : List Char) : Option Int :=
  match cs with
  | '-' :: ds => (Text.natural? ds).bind fun n => if n ≤ twoPow 63 then some (-n) else none
  | '+' :: ds => (Text.natural? ds).bind fun n => if n < twoPow 64 then some n else none
  | ds => (Text.natural? ds).bind fun n => if n < twoPow 64 then some n else none

/-- The text is a power of ten: the letter and one or more digits, maybe with a sign. -/
def isPower : List Char → Bool
  | [] => true
  | c :: cs =>
    let ds := match cs with
      | '-' :: ds => ds
      | '+' :: ds => ds
      | ds => ds
    (c = 'e' || c = 'E') && (Text.natural? ds).isSome

/-- The text is a number with a point. There have to be digits on one side of it. -/
def isFraction (cs : List Char) : Bool :=
  let cs := match cs with
    | '-' :: cs => cs
    | '+' :: cs => cs
    | cs => cs
  match cs.span Char.isDigit with
  | (whole, '.' :: cs) =>
    let (decimals, cs) := cs.span Char.isDigit
    (whole ≠ [] || decimals ≠ []) && isPower cs
  | _ => false

/-- What a text says that is not written in a special way. -/
def plainEntry (cs : List Char) : Entry :=
  if isFraction cs then .fraction
  else (integerOf? cs).elim (.text (String.ofList cs)) .integer

/-! ## Values -/

/-- The space that may stand between tokens. -/
def isGap (c : Char) : Bool :=
  c = ' ' || c = '\t' || c = '\n' || c = '\r' || c = '\x0c'

/-- The text without the space in front of it. -/
def skipGap (cs : List Char) : List Char := cs.dropWhile isGap

/-- The character separates the parts of a list or a table. -/
def isSeparator (c : Char) : Bool := c ∈ ['{', '}', '[', ']', ',']

/-- Reads items with commas between them, up to the closing bracket. There may be a comma after
the last one. The number bounds the items. -/
def readSequence {α : Type} (close : Char) (item : Reader α) : Nat → Reader (List α)
  | 0, _ => none
  | bound + 1, cs =>
    if cs.head? = some close then some ([], cs.drop 1)
    else do
      let (a, cs) ← item cs
      match cs with
      | ',' :: cs =>
        let (rest, cs) ← readSequence close item bound cs
        some (a :: rest, cs)
      | c :: cs => if c = close then some ([a], cs) else none
      | [] => none

/-- Reads the name of a member of a table. -/
def readMemberName : Reader String
  | '"' :: cs => readQuoted cs
  | cs =>
    match cs.span (fun c => c.isAlphanum || c = '_' || c = '-') with
    | ([], _) => none
    | (name, cs) => some (String.ofList name, cs)

/-- Reads a member of a table. -/
def readMember (item : Reader Entry) : Reader (String × Entry) := fun cs => do
  let (name, cs) ← readMemberName (skipGap cs)
  match skipGap cs with
  | '=' :: cs =>
    let (e, cs) ← item cs
    some ((name, e), cs)
  | _ => none

/-- Reads a value that is neither a list nor a table. -/
def readSimple : Reader Entry
  | 't' :: 'r' :: 'u' :: 'e' :: cs => some (.flag true, cs)
  | 'f' :: 'a' :: 'l' :: 's' :: 'e' :: cs => some (.flag false, cs)
  | '"' :: cs => (readQuoted cs).map fun (s, cs) => (.text s, cs)
  | '\'' :: c :: '\'' :: cs => some (.character c, cs)
  | '\'' :: _ => none
  | cs =>
    let (plain, cs) := cs.span (fun c => ¬ isSeparator c)
    some (plainEntry (Text.trim plain), cs)

/-- Reads a value, with the space around it. The number bounds how deep lists and tables nest. -/
def readEntry : Nat → Reader Entry
  | 0, _ => none
  | depth + 1, cs => do
    let (e, cs) ←
      match skipGap cs with
      | '[' :: cs =>
        (readSequence ']' (readEntry depth) (cs.length + 1) cs).map fun (es, cs) => (.list es, cs)
      | '{' :: cs =>
        (readSequence '}' (readMember (readEntry depth)) (cs.length + 1) cs).map fun (ms, cs) =>
          (.table (ms.foldl (fun t m => put m.1 m.2 t) []), cs)
      | cs => readSimple cs
    some (e, skipGap cs)

/-- What the value of a variable says. -/
def variableEntry (value : String) : Entry :=
  let cs := Text.trim value.toList
  match readEntry (cs.length + 1) cs with
  | some (e, []) => e
  | _ => .text (String.ofList cs)

/-! ## All variables -/

/-- What variables say, each given with its value. A later one is laid over an earlier one. -/
def ofVariables (environment : List (String × String)) : Entry :=
  layered (environment.filterMap fun (name, value) =>
    (variablePath? name).map fun path => nest path (variableEntry value))

end FederatedLogin.Settings
