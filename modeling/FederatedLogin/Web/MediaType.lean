import FederatedLogin.Text.Split

/-!
# Media types

A media type is a type and a subtype with a slash between them, and parameters after semicolons.
The part of a subtype after its last plus sign is its suffix. A body is JSON if its type is
`application` and its subtype, or the suffix of it, is `json`.
-/

namespace FederatedLogin.Web

open Text

/-- The character may stand in a name. -/
def isTokenCharacter (c : Char) : Bool :=
  c.isAlphanum
    || c ∈ ['!', '#', '$', '%', '&', '\x27', '*', '+', '-', '.', '^', '_', '\x60', '|', '~']

/-- The character may stand between quotes. -/
def isQuotedCharacter (c : Char) : Bool := 31 < c.toNat && c.toNat < 127

/-- Reads what follows a quoted value, up to the next parameter. -/
def afterQuoted? (cs : List Char) : Option (List Char) :=
  match cs.dropWhile (· = ' ') with
  | [] => some []
  | ';' :: cs => some cs
  | _ => none

/-- Reads the value of a parameter, and gives what follows the semicolon after it. -/
def readParameterValue? (cs : List Char) : Option (List Char) :=
  match cs with
  | '"' :: cs =>
    match cut? '"' cs with
    | none => none
    | some (value, rest) =>
      if value ≠ [] && value.all isQuotedCharacter then afterQuoted? rest else none
  | cs =>
    match cut? ';' cs with
    | none => if cs.all isTokenCharacter then some [] else none
    | some (value, rest) =>
      if value ≠ [] && value.all isTokenCharacter then some rest else none

/-- The text is a list of parameters, given a bound on their number. -/
def areParameters : Nat → List Char → Bool
  | 0, _ => false
  | bound + 1, cs =>
    match cs.dropWhile (· = ' ') with
    | [] => true
    | cs =>
      match cut? '=' cs with
      | none => false
      | some (name, rest) =>
        name ≠ [] && name.all isTokenCharacter
          && (readParameterValue? rest).any (areParameters bound)

/-- The subtype, and the text after the semicolon or the space that ends it. -/
def cutSubtype (cs : List Char) : List Char × List Char :=
  let subtype := cs.takeWhile fun c => c ≠ ';' && c ≠ ' '
  (subtype, cs.drop (subtype.length + 1))

/-- The subtype without its suffix, and the suffix after the last plus sign. A plus sign in front
starts no suffix. -/
def cutSuffix (subtype : List Char) : List Char × Option (List Char) :=
  match cut? '+' subtype.reverse with
  | none => (subtype, none)
  | some (suffix, front) =>
    if front = [] then (subtype, none) else (front.reverse, some suffix.reverse)

/-- The text is the media type of a JSON body. -/
def isJsonMediaType (s : String) : Bool :=
  match cut? '/' s.toList with
  | none => false
  | some (type, rest) =>
    let (subtype, parameters) := cutSubtype rest
    let (front, suffix) := cutSuffix (subtype.map Char.toLower)
    type.map Char.toLower = "application".toList && subtype.all isTokenCharacter
      && (front = "json".toList || suffix = some "json".toList)
      && areParameters (parameters.length + 1) parameters

end FederatedLogin.Web
