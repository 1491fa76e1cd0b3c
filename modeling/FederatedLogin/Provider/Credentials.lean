import FederatedLogin.Json.Shape

/-!
# Provider credentials

The credentials with which this service is known to an identity provider, and other endpoints than
the usual ones. A provider without credentials is not offered.
-/

namespace FederatedLogin.Provider

open Json

/-- The credentials for one provider, and its endpoints if they differ from the usual ones. -/
structure Credentials where
  clientId : String
  clientSecret : String
  tokenUrl : Option String := none
  userinfoUrl : Option String := none
  deriving DecidableEq, Repr, Inhabited

namespace Credentials

/-- The written form of credentials. -/
def shape : Shape :=
  .record
    [(["client_id"], .refused, .text),
     (["client_secret"], .refused, .text),
     (["token_url"], .default .null, .nullable .text),
     (["userinfo_url"], .default .null, .nullable .text)]

/-- The credentials that a value of the shape stands for. -/
def ofValue? (v : Value) : Option Credentials := do
  some
    { clientId := ← (← v.member? "client_id").string?
      clientSecret := ← (← v.member? "client_secret").string?
      tokenUrl := ← (← v.member? "token_url").optionalString?
      userinfoUrl := ← (← v.member? "userinfo_url").optionalString? }

/-- Credentials as a value. Usual endpoints are left out. -/
def toValue (c : Credentials) : Value :=
  .object <|
    [("client_id", .string c.clientId), ("client_secret", .string c.clientSecret)]
      ++ Value.present "token_url" (c.tokenUrl.map .string)
      ++ Value.present "userinfo_url" (c.userinfoUrl.map .string)

end Credentials

/-- The credentials for all providers. -/
structure Config where
  google : Option Credentials := none
  github : Option Credentials := none
  deriving DecidableEq, Repr, Inhabited

namespace Config

/-- The written form of the credentials for all providers. -/
def shape : Shape :=
  .record
    [(["google"], .default .null, .nullable Credentials.shape),
     (["github"], .default .null, .nullable Credentials.shape)]

/-- The credentials of a value that is `null` for a provider without any. -/
def credentials? : Value → Option (Option Credentials)
  | .null => some none
  | v => (Credentials.ofValue? v).map some

/-- The credentials that a value of the shape stands for. -/
def ofValue? (v : Value) : Option Config := do
  some ⟨← credentials? (← v.member? "google"), ← credentials? (← v.member? "github")⟩

/-- The credentials for all providers as a value. Providers without any are left out. -/
def toValue (c : Config) : Value :=
  .object <|
    Value.present "google" (c.google.map (·.toValue))
      ++ Value.present "github" (c.github.map (·.toValue))

end Config

end FederatedLogin.Provider
