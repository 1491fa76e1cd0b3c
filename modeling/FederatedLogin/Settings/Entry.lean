import FederatedLogin.Lookup

/-!
# Entries

What a source of settings says: scalars, lists, and tables of named entries. The names of a table
ascend, which `put` maintains. One entry is laid over another with `Entry.overlay`: tables are
joined name by name, and anything else replaces what lies below it.
-/

namespace FederatedLogin.Settings

/-- What a source says about a setting or a section. -/
inductive Entry where
  | flag (b : Bool)
  | integer (n : Int)
  /-- A number with a fraction. No setting is one, so its value is not kept. -/
  | fraction
  | character (c : Char)
  | text (s : String)
  | list (items : List Entry)
  | table (members : List (String × Entry))
  deriving Repr, Inhabited

/-! ## Tables -/

/-- Gives a name its value in a table, in the place of the one that it had. -/
def put {α : Type} (name : String) (value : α) : List (String × α) → List (String × α)
  | [] => [(name, value)]
  | (n, v) :: rest =>
    if name = n then (name, value) :: rest
    else if name < n then (name, value) :: (n, v) :: rest
    else (n, v) :: put name value rest

/-- A name has the value that it was given last. -/
theorem lookup_put {α : Type} (key name : String) (value : α) (members : List (String × α)) :
    (put name value members).lookup key =
      if key = name then some value else members.lookup key := by
  induction members with
  | nil => simp [put, lookup_cons_eq_ite]
  | cons m rest ih =>
    obtain ⟨n, v⟩ := m
    rw [put]
    split
    · next h =>
      subst h
      simp only [lookup_cons_eq_ite]
      split <;> rfl
    · next h =>
      split
      · simp only [lookup_cons_eq_ite]
      · simp only [lookup_cons_eq_ite, ih]
        split
        · next hn => rw [if_neg fun e => h (e.symm.trans hn)]
        · rfl

/-- A table with nothing but one entry, at the end of a path of names. -/
def nest (path : List String) (e : Entry) : Entry :=
  path.foldr (fun name inner => .table [(name, inner)]) e

/-! ## Layers -/

mutual

/-- What stands when one entry is laid over another. -/
def Entry.overlay (below : Entry) : Entry → Entry
  | .table above =>
    match below with
    | .table members => .table (overlayMembers members above)
    | _ => .table above
  | above => above
termination_by structural above => above

/-- Lays the members of a table over those of another one. -/
def overlayMembers (below : List (String × Entry)) :
    List (String × Entry) → List (String × Entry)
  | [] => below
  | (name, e) :: above =>
    overlayMembers (put name ((below.lookup name).elim e fun old => old.overlay e) below) above
termination_by structural above => above

end

/-- What stands when each entry is laid over the ones before it. -/
def layered (layers : List Entry) : Entry := layers.foldl Entry.overlay (.table [])

end FederatedLogin.Settings
