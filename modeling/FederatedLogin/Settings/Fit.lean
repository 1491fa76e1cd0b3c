import FederatedLogin.Json.Shape
import FederatedLogin.Settings.Entry

/-!
# Entries that fit a shape

`Json.Shape.fit` reads a value of a shape off an entry. The first fault is reported, with the path
of names that leads to it. The members of a table are read in the order of their names, before
any that is missing is noticed. A list stands for a record with its fields in order.
-/

namespace FederatedLogin

open Json

namespace Settings

/-- What is wrong with a setting. -/
inductive Cause where
  /-- A source is no text of the expected format. -/
  | malformed
  /-- A value is of another kind than the setting. -/
  | wrongKind
  /-- A number is out of the range of its setting. -/
  | outOfRange
  /-- A list ends before a field that has no default. -/
  | tooShort
  /-- A name is none of those that can be chosen. -/
  | unknownName
  /-- A table lacks a field that has no default. -/
  | missing
  deriving DecidableEq, Repr

/-- The name of a cause. -/
def Cause.name : Cause → String
  | malformed => "Message"
  | wrongKind => "InvalidType"
  | outOfRange => "InvalidValue"
  | tooShort => "InvalidLength"
  | unknownName => "UnknownVariant"
  | missing => "MissingField"

/-- What is wrong, and where. -/
structure Fault where
  cause : Cause
  path : List String
  deriving DecidableEq, Repr

/-- The fault as it is seen from outside the entry of the given name. -/
def Fault.within (name : String) (f : Fault) : Fault := { f with path := name :: f.path }

/-- What a value is read as, or what is wrong with it. -/
abbrev Fitted (α : Type) := Except Fault α

/-- A fault in the entry at hand. -/
def fault {α : Type} (cause : Cause) : Fitted α := .error ⟨cause, []⟩

/-- The names of a field, what its absence means, and how its entry is read. -/
structure FieldFit where
  names : List String
  absence : Absence
  fit : Entry → Fitted Value

namespace FieldFit

/-- The name under which the field is given back. -/
def name (f : FieldFit) : String := f.names.headD ""

end FieldFit

/-- Reads one of some names. A table stands for its first name, if that says nothing. -/
def fitChoice (names : List String) : Entry → Fitted Value
  | .text s => if s ∈ names then .ok (.string s) else fault .unknownName
  | .table ((s, _) :: _) =>
    if s ∈ names then .error ⟨.wrongKind, [s]⟩ else fault .unknownName
  | _ => fault .wrongKind

/-- Reads the members of a table that are fields. -/
def fitMembers (fields : List FieldFit) :
    List (String × Entry) → Fitted (List (String × Value))
  | [] => .ok []
  | (name, e) :: rest =>
    match fields.find? fun f => f.names.contains name with
    | none => fitMembers fields rest
    | some f => do
      let v ← (f.fit e).mapError (·.within name)
      .ok ((f.name, v) :: (← fitMembers fields rest))

/-- Reads fields written in order, of which the first has the given position. -/
def fitInOrder (position : Nat) : List FieldFit → List Entry → Fitted (List (String × Value))
  | [], _ => .ok []
  | f :: fields, [] =>
    match f.absence with
    | .default v => do .ok ((f.name, v) :: (← fitInOrder position fields []))
    | _ => fault .tooShort
  | f :: fields, e :: items => do
    let v ← (f.fit e).mapError (·.within (String.ofList (Text.decimal position)))
    .ok ((f.name, v) :: (← fitInOrder (position + 1) fields items))

/-- Reads a record. -/
def fitRecord (fields : List FieldFit) : Entry → Fitted Value
  | .table members => do
    let found ← fitMembers fields members
    let all ← fields.mapM fun f =>
      match (found.lookup f.name).or f.absence.value? with
      | some v => .ok (f.name, v)
      | none => fault .missing
    .ok (.object all)
  | .list items => do .ok (.object (← fitInOrder 0 fields items))
  | _ => fault .wrongKind

end Settings

open Settings

mutual

/-- Reads an entry as a value of the shape, in normal form. -/
def Json.Shape.fit : Shape → Entry → Fitted Value
  | .text, e =>
    match e with
    | .text s => .ok (.string s)
    | .character c => .ok (.string c.toString)
    | _ => fault .wrongKind
  | .flag, e =>
    match e with
    | .flag b => .ok (.bool b)
    | _ => fault .wrongKind
  | .integer low high, e =>
    match e with
    | .integer n => if low ≤ n ∧ n ≤ high then .ok (.integer n) else fault .outOfRange
    | _ => fault .wrongKind
  | .choice names, e => fitChoice names e
  | .nullable inner, e => inner.fit e
  | .record fields, e => fitRecord (fieldFits fields) e

/-- How the fields of a record are read. -/
def fieldFits : List (List String × Absence × Shape) → List FieldFit
  | [] => []
  | (names, absence, shape) :: fields => ⟨names, absence, shape.fit⟩ :: fieldFits fields

end

end FederatedLogin
