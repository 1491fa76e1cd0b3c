import FederatedLogin.Json.Reader

/-!
# Shapes

A shape says which values are expected at a place. `Shape.read` reads a value of a shape off a text
and gives it in normal form: a record becomes an object of all its fields in order, under their
first names, with absent fields filled in. A record may also be written as an array of its fields.

Faults are met from left to right: a field that comes twice is a mismatch as soon as its name is
read, a scalar of another kind is one after it is read, a container of another kind at once, and a
field that is missing at the closing brace.
-/

namespace FederatedLogin.Json

/-- What stands in for a field that is absent. -/
inductive Absence where
  /-- The field has to be there. -/
  | refused
  /-- The field is `null` when an object leaves it out; an array has to write it. -/
  | null
  /-- The field has this value when it is left out. -/
  | default (value : Value)

/-- Which values are expected. -/
inductive Shape where
  | text
  | flag
  /-- An integer between two bounds. -/
  | integer (low high : Int)
  /-- One of some names: a string, or an object whose only member has that name and is `null`. -/
  | choice (names : List String)
  | nullable (inner : Shape)
  /-- Fields in order, each with the names that it may have. -/
  | record (fields : List (List String × Absence × Shape))

/-- A number of an unsigned word of so many bits. -/
def Shape.unsigned (bits : Nat) : Shape := .integer 0 (twoPow bits - 1)

/-- A number of a signed word of so many bits. -/
def Shape.signed (bits : Nat) : Shape :=
  .integer (-(twoPow (bits - 1))) (twoPow (bits - 1) - 1)

/-- The value that is assumed where a field is absent, if there is one. -/
def Absence.value? : Absence → Option Value
  | .refused => none
  | .null => some .null
  | .default v => some v

/-- The record of a shape in which every field is absent that may be. -/
def Shape.blank : Shape → Value
  | .record fields =>
    .object (fields.filterMap fun f => f.2.1.value?.map fun v => (f.1.headD "", v))
  | _ => .null

/-- The names of a field, what its absence means, and how its value is read. -/
structure FieldReader where
  names : List String
  absence : Absence
  read : Reader Value

namespace FieldReader

/-- The name under which the field is given back. -/
def name (f : FieldReader) : String := f.names.headD ""

end FieldReader

/-- The fault of a value that is not of the expected kind. -/
def misfit : List Char → Fault
  | [] => .malformed
  | c :: cs =>
    if c = '[' ∨ c = '{' then .mismatch
    else
      match readValue .keep 0 (c :: cs) with
      | .ok _ => .mismatch
      | .error fault => fault

/-- Reads a value that is not a container, and is as the test says. -/
def readScalar (expected : Char → Bool) (fits : Value → Bool) : Reader Value := fun cs =>
  match skipSpace cs with
  | [] => .error .malformed
  | c :: rest =>
    if expected c then do
      let (v, cs) ← readValue .keep 0 (c :: rest)
      if fits v then .ok (v, cs) else .error .mismatch
    else .error (misfit (c :: rest))

/-- Reads one of some names. -/
def readChoice (names : List String) : Reader Value := fun cs =>
  match skipSpace cs with
  | '"' :: cs => do
    let (s, cs) ← readString .keep cs
    if s ∈ names then .ok (.string s, cs) else .error .mismatch
  | '{' :: cs =>
    match skipSpace cs with
    | '"' :: cs => do
      let (s, cs) ← readString .keep cs
      if s ∈ names then
        let ((), cs) ← readColon cs
        let (_, cs) ← readScalar (· = 'n') (fun _ => true) cs
        match skipSpace cs with
        | '}' :: cs => .ok (.string s, cs)
        | _ => .error .malformed
      else .error .mismatch
    | cs => .error (misfit cs)
  | _ => .error .malformed

/-- Reads `null`, or a value with the reader. -/
def readNullable (inner : Reader Value) : Reader Value := fun cs =>
  match skipSpace cs with
  | 'n' :: cs => readWord "null".toList .null ('n' :: cs)
  | cs => inner cs

/-! ## Records -/

/-- The place of the field that has a name. -/
def fieldIndex? (fields : List FieldReader) (name : String) : Option Nat :=
  fields.findIdx? (fun f => f.names.contains name)

/-- The record that the values found make. -/
def completed? : List FieldReader → List (Option Value) → Option (List (String × Value))
  | [], _ => some []
  | f :: fs, slots => do
    let v ← (slots.headD none).or f.absence.value?
    let rest ← completed? fs slots.tail
    some ((f.name, v) :: rest)

/-- Reads one member into the slot of its field, or passes over it. -/
def readSlot (fields : List FieldReader) (slots : List (Option Value)) :
    Reader (List (Option Value)) := fun cs =>
  match skipSpace cs with
  | '"' :: cs => do
    let (name, cs) ← readString .keep cs
    match fieldIndex? fields name with
    | none =>
      let ((), cs) ← readColon cs
      let ((), cs) ← skipValue cs
      .ok (slots, cs)
    | some i =>
      if (slots[i]?.getD none).isSome then .error .mismatch
      else
        let ((), cs) ← readColon cs
        match fields[i]? with
        | none => .error .mismatch
        | some f =>
          let (v, cs) ← f.read cs
          .ok (slots.set i (some v), cs)
  | _ => .error .malformed

/-- Reads the members after the first one, up to the closing brace. -/
def readMoreSlots (fields : List FieldReader) : Nat → List (Option Value) →
    Reader (List (Option Value))
  | 0, _, _ => .error .malformed
  | bound + 1, slots, cs =>
    match skipSpace cs with
    | '}' :: cs => .ok (slots, cs)
    | ',' :: cs => do
      let (slots, cs) ← readSlot fields slots cs
      readMoreSlots fields bound slots cs
    | _ => .error .malformed

/-- Reads the members of a record whose opening brace has been read. -/
def readSlots (fields : List FieldReader) : Reader (List (Option Value)) := fun cs =>
  let empty := fields.map fun _ => none
  match skipSpace cs with
  | '}' :: cs => .ok (empty, cs)
  | cs => do
    let (slots, cs) ← readSlot fields empty cs
    readMoreSlots fields (cs.length + 1) slots cs

/-- Reads fields written in order, up to the closing bracket. Once the items have ended, the
fields left over are absent. -/
def readInOrder (first : Bool) : List FieldReader → Reader (List (String × Value))
  | [], cs =>
    match skipSpace cs with
    | ']' :: cs => .ok ([], cs)
    | _ => .error .malformed
  | f :: fs, cs =>
    match skipSpace cs with
    | ']' :: cs =>
      match f.absence with
      | .default v => do
        let (rest, cs) ← readInOrder first fs (']' :: cs)
        .ok ((f.name, v) :: rest, cs)
      | _ => .error .mismatch
    | c :: cs => do
      let cs ← if first then .ok (c :: cs) else if c = ',' then .ok cs else .error .malformed
      let (v, cs) ← f.read cs
      let (rest, cs) ← readInOrder false fs cs
      .ok ((f.name, v) :: rest, cs)
    | [] => .error .malformed

/-- Reads a record. -/
def readRecord (fields : List FieldReader) : Reader Value := fun cs =>
  match skipSpace cs with
  | '[' :: cs => do
    let (members, cs) ← readInOrder true fields cs
    .ok (.object members, cs)
  | '{' :: cs => do
    let (slots, cs) ← readSlots fields cs
    match completed? fields slots with
    | some members => .ok (.object members, cs)
    | none => .error .mismatch
  | cs => .error (misfit cs)

/-! ## Reading a shape -/

mutual

/-- Reads a value of the shape, in normal form. -/
def Shape.read : Shape → Reader Value
  | .text => readScalar (· = '"') (fun _ => true)
  | .flag => readScalar (fun c => c = 't' || c = 'f') (fun _ => true)
  | .integer low high =>
    readScalar (fun c => c = '-' || c.isDigit)
      (fun v => v.integer?.any fun n => low ≤ n && n ≤ high)
  | .choice names => readChoice names
  | .nullable inner => readNullable inner.read
  | .record fields => readRecord (fieldReaders fields)

/-- The readers of the fields. -/
def fieldReaders : List (List String × Absence × Shape) → List FieldReader
  | [] => []
  | (names, absence, shape) :: fields => ⟨names, absence, shape.read⟩ :: fieldReaders fields

end

/-- Reads a text that is one value of the shape. -/
def Shape.parse (shape : Shape) (text : String) : Except Fault Value := readAll shape.read text

end FederatedLogin.Json
