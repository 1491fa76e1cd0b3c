import FederatedLogin.Account.Identity
import FederatedLogin.Time.Rfc3339
import FederatedLogin.Uuid

/-!
# Users

A user is a local account. Its public form is an object whose names are in camel case.
-/

namespace FederatedLogin

open Time

/-- A local account. -/
structure User where
  id : Uuid
  displayName : String
  email : String
  emailVerified : Bool
  avatarUrl : Option String
  preferredLanguage : Option String
  active : Bool
  createdAt : Instant
  updatedAt : Instant
  deriving DecidableEq, Repr, Inhabited

namespace User

open Json

/-- A new active account for a person. -/
def ofIdentity (id : Uuid) (identity : Identity) (now : Instant) : User where
  id := id
  displayName := identity.displayName
  email := identity.email
  emailVerified := identity.emailVerified
  avatarUrl := identity.avatarUrl
  preferredLanguage := identity.locale
  active := true
  createdAt := now
  updatedAt := now

/-- The written form of an account. -/
def shape : Shape :=
  .record
    [(["id"], .refused, .text),
     (["displayName"], .refused, .text),
     (["email"], .refused, .text),
     (["emailVerified"], .refused, .flag),
     (["avatarUrl"], .null, .nullable .text),
     (["preferredLanguage"], .null, .nullable .text),
     (["active"], .refused, .flag),
     (["createdAt"], .refused, .text),
     (["updatedAt"], .refused, .text)]

/-- The account that a value of the shape stands for, if its identifier and its times are
readable. -/
def ofValue? (v : Value) : Option User := do
  some
    { id := ← Uuid.parse? (← (← v.member? "id").string?)
      displayName := ← (← v.member? "displayName").string?
      email := ← (← v.member? "email").string?
      emailVerified := ← (← v.member? "emailVerified").bool?
      avatarUrl := ← (← v.member? "avatarUrl").optionalString?
      preferredLanguage := ← (← v.member? "preferredLanguage").optionalString?
      active := ← (← v.member? "active").bool?
      createdAt := ← Instant.parse? (← (← v.member? "createdAt").string?)
      updatedAt := ← Instant.parse? (← (← v.member? "updatedAt").string?) }

/-- An account as a value. -/
def toValue (u : User) : Value :=
  .object
    [("id", .string u.id.render),
     ("displayName", .string u.displayName),
     ("email", .string u.email),
     ("emailVerified", .bool u.emailVerified),
     ("avatarUrl", .ofOption u.avatarUrl),
     ("preferredLanguage", .ofOption u.preferredLanguage),
     ("active", .bool u.active),
     ("createdAt", .string u.createdAt.render),
     ("updatedAt", .string u.updatedAt.render)]

/-- Reads an account from its written form. -/
def parse? (text : String) : Option User := (shape.parse text).toOption.bind ofValue?

end User

end FederatedLogin
