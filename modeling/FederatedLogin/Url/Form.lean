import FederatedLogin.Text.Split
import FederatedLogin.Url.Percent

/-!
# Form bodies

A form body lists names and values: pairs with ampersands between them, each with an equals sign in
the middle. Spaces are written as plus signs; letters, digits and four marks stand for themselves,
and all else is percent-encoded.
-/

namespace FederatedLogin.Url

open Text

/-- The character stands for itself in a form body. -/
def isFormCharacter (c : Char) : Bool := c.isAlphanum || c ∈ ['*', '-', '.', '_']

/-- A character as it is written in a form body. -/
def formCharacter (c : Char) : List Char :=
  if c = ' ' then ['+']
  else if isFormCharacter c then [c]
  else (String.utf8EncodeChar c).flatMap percentByte

/-- A name or a value as it is written in a form body. -/
def formText (s : String) : List Char := s.toList.flatMap formCharacter

/-- A form body. -/
def formBody : List (String × String) → List Char
  | [] => []
  | [(name, value)] => formText name ++ '=' :: formText value
  | (name, value) :: p :: ps =>
    formText name ++ '=' :: formText value ++ '&' :: formBody (p :: ps)

/-! ## Reading -/

/-- Reads a name or a value, if its bytes are well formed. -/
def readFormText? (cs : List Char) : Option String :=
  let spaced := cs.map fun c => if c = '+' then ' ' else c
  (ofBytes? (percentDecode (toBytes spaced))).map String.ofList

/-- Reads a pair. Without an equals sign the value is empty. -/
def readFormPair? (cs : List Char) : Option (String × String) := do
  let (name, value) := (cut? '=' cs).getD (cs, [])
  some (← readFormText? name, ← readFormText? value)

/-- Reads a form body. Empty pieces do not count. -/
def readForm? (cs : List Char) : Option (List (String × String)) :=
  ((pieces '&' cs).filter (· ≠ [])).mapM readFormPair?

end FederatedLogin.Url
