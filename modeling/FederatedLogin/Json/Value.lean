import FederatedLogin.Text.Digits

/-!
# JSON values and their text

A number is either an integer literal, kept as an integer, or any other literal, kept as it was
written. `Value.text` writes a value without any space; of the characters of a string it escapes
only the quote, the backslash and the controls below the space.
-/

namespace FederatedLogin.Json

/-- A JSON value. The members of an object keep their order. -/
inductive Value where
  | null
  | bool (b : Bool)
  | integer (n : Int)
  | fraction (literal : String)
  | string (s : String)
  | array (items : List Value)
  | object (members : List (String × Value))
  deriving Repr, BEq, Inhabited

namespace Value

/-- A text, or `null` when there is none. -/
def ofOption : Option String → Value
  | none => null
  | some s => string s

/-- A member of an object that is left out when it has no value. -/
def present (name : String) : Option Value → List (String × Value)
  | none => []
  | some v => [(name, v)]

/-- The first member of an object with the given name. -/
def member? (name : String) : Value → Option Value
  | object members => members.lookup name
  | _ => none

/-- The text that a string value holds. -/
def string? : Value → Option String
  | string s => some s
  | _ => none

/-- The text of a value that is a string or `null`. -/
def optionalString? : Value → Option (Option String)
  | null => some none
  | string s => some (some s)
  | _ => none

/-- The number that an integer value holds. -/
def integer? : Value → Option Int
  | integer n => some n
  | _ => none

/-- The number that a value holds which is an integer of at least zero. -/
def natural? : Value → Option Nat
  | integer (.ofNat n) => some n
  | _ => none

/-- The truth value that a value holds. -/
def bool? : Value → Option Bool
  | bool b => some b
  | _ => none

variable {v : Value}

theorem string?_eq_some_iff {s : String} : v.string? = some s ↔ v = string s := by
  cases v <;> simp [string?]

theorem optionalString?_eq_some_iff {s : Option String} :
    v.optionalString? = some s ↔ v = ofOption s := by
  cases v <;> cases s <;> simp [optionalString?, ofOption]

theorem integer?_eq_some_iff {n : Int} : v.integer? = some n ↔ v = integer n := by
  cases v <;> simp [integer?]

theorem bool?_eq_some_iff {b : Bool} : v.bool? = some b ↔ v = bool b := by
  cases v <;> simp [bool?]

end Value

/-! ## Text -/

/-- The letter that stands for a character after a backslash, for the seven that have one. -/
def escapeLetter? (c : Char) : Option Char :=
  if c = '"' ∨ c = '\\' then some c
  else if c = '\x08' then some 'b'
  else if c = '\x0c' then some 'f'
  else if c = '\n' then some 'n'
  else if c = '\r' then some 'r'
  else if c = '\t' then some 't'
  else none

/-- A character as it stands inside a string. -/
def escape (c : Char) : List Char :=
  match escapeLetter? c with
  | some letter => ['\\', letter]
  | none => if c.toNat < 0x20 then '\\' :: 'u' :: Text.hexDigits 4 c.toNat else [c]

/-- A text between quotes. -/
def quote (s : String) : List Char :=
  '"' :: s.toList.flatMap escape ++ ['"']

mutual

/-- The text of a value, without any space. -/
def Value.text : Value → List Char
  | .null => "null".toList
  | .bool true => "true".toList
  | .bool false => "false".toList
  | .integer n => Text.decimalInt n
  | .fraction literal => literal.toList
  | .string s => quote s
  | .array items => '[' :: itemsText items ++ [']']
  | .object members => '{' :: membersText members ++ ['}']

/-- The items of an array with commas between them. -/
def itemsText : List Value → List Char
  | [] => []
  | [v] => v.text
  | v :: w :: vs => v.text ++ ',' :: itemsText (w :: vs)

/-- The members of an object with commas between them. -/
def membersText : List (String × Value) → List Char
  | [] => []
  | [(name, v)] => quote name ++ ':' :: v.text
  | (name, v) :: m :: ms => quote name ++ ':' :: v.text ++ ',' :: membersText (m :: ms)

end

/-- The text of a value as a string. -/
def Value.render (v : Value) : String := String.ofList v.text

end FederatedLogin.Json
