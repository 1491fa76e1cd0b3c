import FederatedLogin.Settings.Entry

/-!
# Trees of a TOML document

While a document is read, a table remembers how it came about, as that decides what may still be
added to it: a table with a header of its own is not extended by dotted keys, and one made by
dotted keys has no header. Values, with all that is in them, are closed. A path through a list of
tables leads into the last one.
-/

namespace FederatedLogin.Settings.Toml

/-- How a table came about. -/
inductive Origin where
  /-- It has a header of its own. -/
  | header
  /-- It is named on the way to another header. -/
  | path
  /-- It is named by a dotted key. -/
  | dotted
  deriving DecidableEq, Repr

/-- A part of a document. -/
inductive Node where
  | value (e : Entry)
  | table (origin : Origin) (members : List (String × Node))
  /-- Tables with one header, the last one first. -/
  | tables (items : List (List (String × Node)))

/-- The members of a table. -/
abbrev Members := List (String × Node)

/-- Changes the table at the end of a path. Tables on the way are made when they are not there; on
the path of a dotted key none may have a header. -/
def change (dotted : Bool) (f : Origin → Members → Option Members) :
    List String → Origin → Members → Option Members
  | [], origin, members => f origin members
  | name :: path, _, members =>
    match members.lookup name with
    | none => do
      let origin := if dotted then .dotted else .path
      some (put name (.table origin (← change dotted f path origin [])) members)
    | some (.table origin inner) =>
      if dotted ∧ origin = .header then none
      else do some (put name (.table origin (← change dotted f path origin inner)) members)
    | some (.tables (inner :: older)) => do
      some (put name (.tables ((← change dotted f path .header inner) :: older)) members)
    | some (.tables []) => none
    | some (.value _) => none

/-- Gives a dotted key its value, unless it has one. The table that holds the last name is either
the one at hand, or one made by dotted keys. -/
def addPair (path : List String) (name : String) (e : Entry) :
    Origin → Members → Option Members :=
  change true
    (fun origin members =>
      if (origin = .dotted ↔ path = []) ∨ (members.lookup name).isSome then none
      else some (put name (.value e) members))
    path

/-- Begins a table with a header. -/
def addTable (name : String) (_ : Origin) (members : Members) : Option Members :=
  match members.lookup name with
  | none => some (put name (.table .header []) members)
  | some (.table .path inner) => some (put name (.table .header inner) members)
  | some _ => none

/-- Begins one more table of a list. -/
def addToList (name : String) (_ : Origin) (members : Members) : Option Members :=
  match members.lookup name with
  | none => some (put name (.tables [[]]) members)
  | some (.tables items) => some (put name (.tables ([] :: items)) members)
  | some _ => none

mutual

/-- What a part of a document says. -/
def Node.entry : Node → Entry
  | .value e => e
  | .table _ members => .table (entries members)
  | .tables items => .list (tableEntries items).reverse

/-- What the members of a table say. -/
def entries : Members → List (String × Entry)
  | [] => []
  | (name, node) :: rest => (name, node.entry) :: entries rest

/-- What each of some tables says. -/
def tableEntries : List Members → List Entry
  | [] => []
  | members :: rest => .table (entries members) :: tableEntries rest

end

end FederatedLogin.Settings.Toml
