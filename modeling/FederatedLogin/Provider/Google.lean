import FederatedLogin.Account.Identity
import FederatedLogin.Provider.Profile

/-!
# Google

The profile that Google gives of a person, and the identity in it. Two of its fields also come under
older names.
-/

namespace FederatedLogin.Provider.Google

open Json

/-- The name under which the provider is offered. -/
def name : String := "google"

/-- Where codes are exchanged. -/
def tokenUrl : String := "https://oauth2.googleapis.com/token"

/-- Where profiles are fetched. -/
def userinfoUrl : String := "https://openidconnect.googleapis.com/v1/userinfo"

/-- What the provider tells about a person. -/
structure Profile where
  sub : String
  email : String
  emailVerified : Bool
  name : Option String
  picture : Option String
  locale : Option String
  deriving DecidableEq, Repr, Inhabited

namespace Profile

/-- The written form of a profile. -/
def shape : Shape :=
  .record
    [(["sub", "id"], .refused, .text),
     (["email"], .refused, .text),
     (["email_verified", "verified_email"], .default (.bool false), .flag),
     (["name"], .null, .nullable .text),
     (["picture"], .null, .nullable .text),
     (["locale"], .null, .nullable .text)]

/-- The profile that a value of the shape stands for. -/
def ofValue? (v : Value) : Option Profile := do
  some
    { sub := ← (← v.member? "sub").string?
      email := ← (← v.member? "email").string?
      emailVerified := ← (← v.member? "email_verified").bool?
      name := ← (← v.member? "name").optionalString?
      picture := ← (← v.member? "picture").optionalString?
      locale := ← (← v.member? "locale").optionalString? }

/-- The identity of the person. The address stands in for a missing name. -/
def identity (p : Profile) : Identity where
  subject := p.sub
  displayName := (p.name.filter (· ≠ "")).getD p.email
  email := p.email
  emailVerified := p.emailVerified
  avatarUrl := p.picture
  locale := p.locale

end Profile

/-- Fetches the identity behind a token. -/
def fetchIdentity (endpoint accessToken : String) : Traffic (Except Error Identity) := do
  match ← fetchJson (readBody? Profile.shape Profile.ofValue?) endpoint accessToken [] with
  | .error e => pure (.error e)
  | .ok profile => pure (.ok profile.identity)

end FederatedLogin.Provider.Google
