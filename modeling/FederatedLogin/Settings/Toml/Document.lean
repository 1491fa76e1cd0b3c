import FederatedLogin.Settings.Toml.Scalar
import FederatedLogin.Settings.Toml.Tree

/-!
# TOML documents

A document is a sequence of lines: pairs of a dotted key and a value, and headers, which name the
table that the pairs after them belong to. `Toml.parse` gives what a document says as a table.
-/

namespace FederatedLogin.Settings.Toml

/-! ## Lists and tables in a line -/

/-- Reads the items of a list, given those read so far, the last one first. The number bounds the
items still to come. -/
def readItems (item : Reader Entry) : Nat → List Entry → Reader Entry
  | 0, _, _ => none
  | bound + 1, before, cs =>
    match skipBlank cs with
    | ']' :: cs => some (.list before.reverse, cs)
    | cs => do
      let (e, cs) ← item cs
      match skipBlank cs with
      | ',' :: cs => readItems item bound (e :: before) cs
      | ']' :: cs => some (.list (e :: before).reverse, cs)
      | _ => none

/-- Reads a dotted key and its value: the path to its last name, that name, and the value. -/
def readPair (item : Reader Entry) : Reader (List String × String × Entry) := fun cs => do
  let (names, cs) ← readPath cs
  let ((), cs) ← readMark '=' cs
  let (e, cs) ← item (skipSpace cs)
  some ((names.dropLast, names.getLastD "", e), cs)

/-- Reads pairs up to the closing brace, given the members so far. The number bounds the pairs
still to come. -/
def readPairs (item : Reader Entry) : Nat → Members → Reader Entry
  | 0, _, _ => none
  | bound + 1, members, cs => do
    let ((path, name, e), cs) ← readPair item cs
    let members ← addPair path name e .header members
    match skipSpace cs with
    | ',' :: cs => readPairs item bound members cs
    | '}' :: cs => some (.table (entries members), cs)
    | _ => none

/-- Reads a table in braces, the first of which has been read. -/
def readInlineTable (item : Reader Entry) : Reader Entry := fun cs =>
  match skipSpace cs with
  | '}' :: cs => some (.table [], cs)
  | cs => readPairs item (cs.length + 1) [] cs

/-- Reads a value in which lists and tables nest at most as deep as the number says. -/
def readValue : Nat → Reader Entry
  | 0, cs => readScalar cs
  | depth + 1, cs =>
    match cs with
    | '[' :: cs => readItems (readValue depth) (cs.length + 1) [] cs
    | '{' :: cs => readInlineTable (readValue depth) cs
    | cs => readScalar cs

/-! ## Lines -/

/-- A document as far as it is read: its members, and the path of the last header. -/
structure Document where
  header : List String := []
  members : Members := []

/-- Adds a header, or a pair to the table of the last header. -/
def Document.readLine (d : Document) : Reader Document
  | '[' :: '[' :: cs => do
    let (names, cs) ← readPath cs
    let ((), cs) ← readMark ']' cs
    let ((), cs) ← readMark ']' cs
    let members ← change false (addToList (names.getLastD "")) names.dropLast .header d.members
    some (⟨names, members⟩, cs)
  | '[' :: cs => do
    let (names, cs) ← readPath cs
    let ((), cs) ← readMark ']' cs
    let members ← change false (addTable (names.getLastD "")) names.dropLast .header d.members
    some (⟨names, members⟩, cs)
  | cs => do
    let ((path, name, e), cs) ← readPair (readValue maxDepth) cs
    let members ← change false (addPair path name e) d.header .header d.members
    some ({ d with members }, cs)

/-- Reads lines to the end of the text. The number bounds them. -/
def Document.readLines? : Nat → Document → List Char → Option Document
  | 0, _, _ => none
  | bound + 1, d, cs =>
    match skipBlank cs with
    | [] => some d
    | '#' :: cs => if (afterLine? ('#' :: cs)).isSome then some d else none
    | cs => do
      let (d, cs) ← d.readLine cs
      readLines? bound d (← afterLine? cs)

/-- What a document says, if it is well formed. It may start with a byte order mark. -/
def parse (text : String) : Option Entry := do
  let cs := text.toList
  let cs := if cs.head? = some '\uFEFF' then cs.drop 1 else cs
  let d ← Document.readLines? (cs.length + 1) {} cs
  some (.table (entries d.members))

end FederatedLogin.Settings.Toml
