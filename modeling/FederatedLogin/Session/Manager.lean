import FederatedLogin.Call
import FederatedLogin.Session.Cookie

/-!
# Loading and saving sessions

A request whose cookie names a stored session gets that session, and every other request a fresh
one. Saving a session stores its values, or deletes them once it has ended, and gives the cookie
that tells the client.
-/

namespace FederatedLogin.Session

/-- A new session, which is not stored yet. -/
def create (config : Config) : Service Session := do
  let id ← call .newSessionId
  pure (fresh config id)

/-- The stored session with an identifier. A damaged blob counts as none. -/
def get (config : Config) (id : Uuid) : Service (Except Error (Option Session)) := do
  match ← call (.loadSession (key config id)) with
  | .error e => pure (.error e)
  | .ok none => pure (.ok none)
  | .ok (some blob) =>
    match Values.decode? blob with
    | some values => pure (.ok (some (restored config id values)))
    | none =>
      warn "discarding undecodable session values"
      pure (.ok none)

/-- The session of a request with the given cookie headers. -/
def load (config : Config) (headers : List String) : Service (Except Error Session) := do
  match requestedId? config headers with
  | none => .ok <$> create config
  | some id =>
    match ← get config id with
    | .error e => pure (.error e)
    | .ok (some s) => pure (.ok s)
    | .ok none => .ok <$> create config

/-- For how many seconds the values of a session are stored. -/
def lifetime? (s : Session) : Option Nat := if 0 < s.maxAge then some s.maxAge.toNat else none

/-- Stores the values of a session, or deletes them once it has ended. -/
def write (config : Config) (s : Session) : Service (Except Error Unit) :=
  if s.isEnded then call (.deleteSession (key config s.id))
  else call (.storeSession (key config s.id) s.values.encode (lifetime? s))

/-- Saves a session and gives its cookie. -/
def save (config : Config) (s : Session) : Service (Except Error String) := do
  match ← write config s with
  | .error e => pure (.error e)
  | .ok () => pure (cookie config s)

end FederatedLogin.Session
