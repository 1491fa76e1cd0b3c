import FederatedLogin.Session.Config
import FederatedLogin.Session.Values

/-!
# Sessions

A session is an identifier that a client keeps in a cookie, and values that the server keeps. A
negative lifetime marks a session that has ended.
-/

namespace FederatedLogin

/-- A session that was loaded or created for a request. -/
structure Session where
  id : Uuid
  values : Session.Values
  /-- The session was created for this request. -/
  isNew : Bool
  /-- The lifetime in seconds, negative once the session has ended. -/
  maxAge : Int
  deriving DecidableEq, Repr, Inhabited

namespace Session

/-- Why a session could not be loaded or saved. -/
inductive Error where
  /-- The store failed. -/
  | store (cause : String)
  /-- The values have no written form. -/
  | encode (cause : String)
  /-- The cookie holds characters that a header cannot carry. -/
  | cookie (cause : String)
  deriving DecidableEq, Repr

/-- The name of the kind of an error. -/
def Error.kind : Error → String
  | store _ => "Store"
  | encode _ => "Encode"
  | cookie _ => "Cookie"

/-- The text of an error. -/
def Error.message : Error → String
  | store cause => "Session store error: " ++ cause
  | encode cause => "Failed to encode session values: " ++ cause
  | cookie cause => "Invalid session cookie: " ++ cause

/-- A new session without any values. -/
def fresh (config : Config) (id : Uuid) : Session := ⟨id, {}, true, config.maxAge⟩

/-- A session whose values were found in the store. -/
def restored (config : Config) (id : Uuid) (values : Values) : Session :=
  ⟨id, values, false, config.maxAge⟩

/-- The session has ended. -/
def isEnded (s : Session) : Bool := s.maxAge < 0

/-- The session after a login. -/
def authenticate (s : Session) (userId : Uuid) (issuer accessToken : String) : Session :=
  { s with values := ⟨some userId, some issuer, some accessToken⟩ }

/-- The user of a session and the provider that vouched for them, if there was a login and the
session has not ended. -/
def principal? (s : Session) : Option (Uuid × String) :=
  match s.values.userId, s.values.issuer with
  | some userId, some issuer => if s.isEnded then none else some (userId, issuer)
  | _, _ => none

/-- The session after its end. -/
def finish (s : Session) : Session := { s with maxAge := -1, values := {} }

/-- The key under which the values of a session are stored. -/
def key (config : Config) (id : Uuid) : String := config.keyPrefix ++ id.render

end Session

end FederatedLogin
