import FederatedLogin.Settings.Quoted

/-!
# Lines, keys and strings of TOML

A document is made of lines, which end with a line feed, after an optional carriage return. A key
is bare or quoted, and a dotted key is a path of keys. A string stands between one quote or three
of them. In double quotes a backslash begins an escape; between three quotes there may be lines,
and a backslash at the end of a line stands for all the space up to the next character.
-/

namespace FederatedLogin.Settings.Toml

/-! ## Space -/

/-- The characters that separate tokens in a line. -/
def isSpace (c : Char) : Bool := c = ' ' || c = '\t'

/-- The text without the space in front of it. -/
def skipSpace (cs : List Char) : List Char := cs.dropWhile isSpace

/-- The text after a line end, if it starts with one. -/
def afterNewline? : List Char → Option (List Char)
  | '\n' :: cs => some cs
  | '\r' :: '\n' :: cs => some cs
  | _ => none

/-- The text without the comment that it may start with. -/
def skipComment : List Char → List Char
  | '#' :: cs => cs.dropWhile isPlain
  | cs => cs

/-- The text after a line of which nothing but space and a comment is left. -/
def afterLine? (cs : List Char) : Option (List Char) :=
  match skipComment (skipSpace cs) with
  | [] => some []
  | cs => afterNewline? cs

/-- The text without space, comments and line ends in front of it. The number bounds the lines. -/
def skipLines : Nat → List Char → List Char
  | 0, cs => cs
  | bound + 1, cs =>
    match afterNewline? (skipComment (skipSpace cs)) with
    | some cs => skipLines bound cs
    | none => skipSpace cs

/-- The text without space, comments and line ends in front of it. -/
def skipBlank (cs : List Char) : List Char := skipLines cs.length cs

/-- The text without space and line ends in front of it. -/
def skipFold : List Char → List Char
  | '\r' :: '\n' :: cs => skipFold cs
  | c :: cs => if c = '\n' ∨ isSpace c then skipFold cs else c :: cs
  | [] => []

/-! ## Strings -/

/-- Reads a string between single quotes whose opening quote has been read. -/
def readLiteral : Reader String := fun cs =>
  match cs.span (fun c => isPlain c && c ≠ '\'') with
  | (s, '\'' :: cs) => some (String.ofList s, cs)
  | _ => none

/-- Reads characters up to three closing quotes, given those read so far, the last one first. One
or two quotes more belong to the string. The number bounds the characters still to come. -/
def readLinesFrom (quote : Char) : Nat → List Char → Reader String
  | 0, _, _ => none
  | bound + 1, before, cs =>
    match afterNewline? cs with
    | some cs => readLinesFrom quote bound ('\n' :: before) cs
    | none =>
      match cs with
      | [] => none
      | c :: cs =>
        if c = quote then
          match cs.span (· = quote) with
          | (_ :: _ :: more, rest) =>
            let inside := more.take 2
            some (String.ofList (before.reverse ++ inside), more.drop 2 ++ rest)
          | (more, rest) => readLinesFrom quote bound (quote :: more ++ before) rest
        else if c = '\\' ∧ quote = '"' then
          match afterNewline? (skipSpace cs) with
          | some cs => readLinesFrom quote bound before (skipFold cs)
          | none => do
            let (d, cs) ← readEscape cs
            readLinesFrom quote bound (d :: before) cs
        else if isPlain c then readLinesFrom quote bound (c :: before) cs
        else none

/-- Reads a string between three quotes of which the opening ones have been read. A line end right
after them does not count. -/
def readLines (quote : Char) : Reader String := fun cs =>
  readLinesFrom quote (cs.length + 1) [] ((afterNewline? cs).getD cs)

/-- Reads a string. -/
def readString : Reader String
  | '"' :: '"' :: '"' :: cs => readLines '"' cs
  | '\'' :: '\'' :: '\'' :: cs => readLines '\'' cs
  | '"' :: cs => readQuoted cs
  | '\'' :: cs => readLiteral cs
  | _ => none

/-! ## Keys -/

/-- The character may stand in a bare key. -/
def isBare (c : Char) : Bool := c.isAlphanum || c = '_' || c = '-'

/-- Reads one key. -/
def readName : Reader String
  | '"' :: cs => readQuoted cs
  | '\'' :: cs => readLiteral cs
  | cs =>
    match cs.span isBare with
    | ([], _) => none
    | (name, cs) => some (String.ofList name, cs)

/-- Reads a dotted key of at most so many keys, with the space around them. -/
def readPathWithin : Nat → Reader (List String)
  | 0, _ => none
  | bound + 1, cs => do
    let (name, cs) ← readName (skipSpace cs)
    match skipSpace cs with
    | '.' :: cs =>
      let (names, cs) ← readPathWithin bound cs
      some (name :: names, cs)
    | cs => some ([name], cs)

/-- How deep tables and lists may nest. -/
def maxDepth : Nat := 79

/-- Reads a dotted key. -/
def readPath : Reader (List String) := readPathWithin maxDepth

end FederatedLogin.Settings.Toml
