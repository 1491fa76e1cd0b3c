import FederatedLogin.Json.Shape

/-!
# External identities

What an identity provider says about the person who logged in.
-/

namespace FederatedLogin

/-- A person as an identity provider reports them. -/
structure Identity where
  /-- The provider's own name for the person. -/
  subject : String
  displayName : String
  email : String
  /-- The provider has verified that the address belongs to the person. -/
  emailVerified : Bool
  avatarUrl : Option String
  locale : Option String
  deriving DecidableEq, Repr, Inhabited

namespace Identity

open Json

/-- The written form of an identity. -/
def shape : Shape :=
  .record
    [(["subject"], .refused, .text),
     (["display_name"], .refused, .text),
     (["email"], .refused, .text),
     (["email_verified"], .refused, .flag),
     (["avatar_url"], .null, .nullable .text),
     (["locale"], .null, .nullable .text)]

/-- The identity that a value of the shape stands for. -/
def ofValue? (v : Value) : Option Identity := do
  some
    { subject := ← (← v.member? "subject").string?
      displayName := ← (← v.member? "display_name").string?
      email := ← (← v.member? "email").string?
      emailVerified := ← (← v.member? "email_verified").bool?
      avatarUrl := ← (← v.member? "avatar_url").optionalString?
      locale := ← (← v.member? "locale").optionalString? }

/-- An identity as a value. What the provider did not say is left out. -/
def toValue (i : Identity) : Value :=
  .object <|
    [("subject", .string i.subject),
     ("display_name", .string i.displayName),
     ("email", .string i.email),
     ("email_verified", .bool i.emailVerified)]
      ++ Value.present "avatar_url" (i.avatarUrl.map .string)
      ++ Value.present "locale" (i.locale.map .string)

end Identity

end FederatedLogin
