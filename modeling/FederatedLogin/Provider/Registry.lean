import FederatedLogin.Call

/-!
# The registry of providers

The names of the providers that are offered, and the number of the adapter that serves each. A name
that is registered again is served by its last adapter.
-/

namespace FederatedLogin.Provider

/-- Names and adapters, the last registration first. -/
structure Registry where
  adapters : List (String × Nat) := []
  deriving DecidableEq, Repr, Inhabited

namespace Registry

/-- The registry with an adapter in place of any other of its name. -/
def register (r : Registry) (name : String) (adapter : Nat) : Registry :=
  ⟨(name, adapter) :: r.adapters.filter fun a => a.1 ≠ name⟩

/-- The registry of adapters that are numbered in the order of their names here. -/
def ofNames (names : List String) : Registry :=
  names.zipIdx.foldl (fun r a => r.register a.1 a.2) {}

/-- The registered names in order. -/
def names (r : Registry) : List String := (r.adapters.map Prod.fst).mergeSort (· ≤ ·)

/-- The adapter of a name. -/
def adapter (r : Registry) (name : String) : Except Error Nat :=
  match r.adapters.lookup name with
  | some adapter => .ok adapter
  | none => .error (.unknown name)

/-- Exchanges a code with the provider of a name. -/
def exchange (r : Registry) (name : String) (grant : Grant) : Service (Except Error TokenSet) :=
  match r.adapter name with
  | .error e => pure (.error e)
  | .ok adapter => call (.exchange adapter grant)

/-- The identity behind a token of the provider of a name. -/
def identity (r : Registry) (name accessToken : String) : Service (Except Error Identity) :=
  match r.adapter name with
  | .error e => pure (.error e)
  | .ok adapter => call (.identity adapter accessToken)

/-- Exchanges a code, and then finds out with the new token who logged in. -/
def verify (r : Registry) (name : String) (grant : Grant) :
    Service (Except Error (TokenSet × Identity)) :=
  match r.adapter name with
  | .error e => pure (.error e)
  | .ok adapter => do
    match ← call (.exchange adapter grant) with
    | .error e => pure (.error e)
    | .ok tokens =>
      match ← call (.identity adapter tokens.accessToken) with
      | .error e => pure (.error e)
      | .ok identity => pure (.ok (tokens, identity))

end Registry

end FederatedLogin.Provider
