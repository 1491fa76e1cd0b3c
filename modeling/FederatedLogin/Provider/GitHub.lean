import FederatedLogin.Account.Identity
import FederatedLogin.Provider.Profile

/-!
# GitHub

The profile that GitHub gives of a person, and the list of their addresses, which comes from an
endpoint of its own. An address that is both primary and verified is preferred, then any verified
one, and then the public one of the profile, which counts as not verified.
-/

namespace FederatedLogin.Provider.GitHub

open Json

/-- The name under which the provider is offered. -/
def name : String := "github"

/-- Where codes are exchanged. -/
def tokenUrl : String := "https://github.com/login/oauth/access_token"

/-- Where profiles are fetched. -/
def userUrl : String := "https://api.github.com/user"

/-- The headers that the provider asks for. -/
def headers : List (String × String) :=
  [("user-agent", "idlink"), ("accept", "application/vnd.github+json")]

/-- What the provider tells about a person. -/
structure Profile where
  id : Int
  login : String
  name : Option String
  email : Option String
  avatarUrl : Option String
  deriving DecidableEq, Repr, Inhabited

namespace Profile

/-- The written form of a profile. -/
def shape : Shape :=
  .record
    [(["id"], .refused, .signed 64),
     (["login"], .refused, .text),
     (["name"], .null, .nullable .text),
     (["email"], .null, .nullable .text),
     (["avatar_url"], .null, .nullable .text)]

/-- The profile that a value of the shape stands for. -/
def ofValue? (v : Value) : Option Profile := do
  some
    { id := ← (← v.member? "id").integer?
      login := ← (← v.member? "login").string?
      name := ← (← v.member? "name").optionalString?
      email := ← (← v.member? "email").optionalString?
      avatarUrl := ← (← v.member? "avatar_url").optionalString? }

end Profile

/-- An address of a person. -/
structure Address where
  email : String
  primary : Bool
  verified : Bool
  deriving DecidableEq, Repr, Inhabited

namespace Address

/-- The written form of an address. -/
def shape : Shape :=
  .record
    [(["email"], .refused, .text), (["primary"], .refused, .flag), (["verified"], .refused, .flag)]

/-- The address that a value of the shape stands for. -/
def ofValue? (v : Value) : Option Address := do
  some
    { email := ← (← v.member? "email").string?
      primary := ← (← v.member? "primary").bool?
      verified := ← (← v.member? "verified").bool? }

end Address

/-- Reads an array of values of a shape. -/
def readList (shape : Shape) : Reader Value := fun cs =>
  match skipSpace cs with
  | '[' :: cs => do
    let (items, cs) ← readItems shape.read cs
    .ok (.array items, cs)
  | cs => .error (misfit cs)

/-- Reads the addresses in a body. -/
def readAddresses? (body : List UInt8) : Option (List Address) := do
  let cs ← Text.ofBytes? body
  match (readAll (readList Address.shape) (String.ofList cs)).toOption with
  | some (.array items) => items.mapM Address.ofValue?
  | _ => none

/-! ## The identity -/

/-- The verified address that is preferred. -/
def verifiedAddress? (addresses : List Address) : Option Address :=
  (addresses.find? fun a => a.primary && a.verified).or (addresses.find? (·.verified))

/-- The address of a person, and whether it is verified. -/
def chosenAddress? (p : Profile) (addresses : List Address) : Option (String × Bool) :=
  match verifiedAddress? addresses with
  | some a => some (a.email, true)
  | none => (p.email.filter (· ≠ "")).map fun email => (email, false)

/-- The identity of the person, if there is an address. -/
def identity (p : Profile) (addresses : List Address) : Except Error Identity :=
  match chosenAddress? p addresses with
  | none => .error (.identityFailed "GitHub account has no usable e-mail address")
  | some (email, verified) =>
    .ok
      { subject := String.ofList (Text.decimalInt p.id)
        displayName := (p.name.filter (· ≠ "")).getD p.login
        email := email
        emailVerified := verified
        avatarUrl := p.avatarUrl
        locale := none }

/-- Where the addresses are fetched: below the profile. -/
def addressesUrl (userUrl : String) : String :=
  String.ofList ((userUrl.toList.reverse.dropWhile (· = '/')).reverse ++ "/emails".toList)

/-- Fetches the identity behind a token. -/
def fetchIdentity (endpoint accessToken : String) : Traffic (Except Error Identity) := do
  match ← fetchJson (readBody? Profile.shape Profile.ofValue?) endpoint accessToken headers with
  | .error e => pure (.error e)
  | .ok profile =>
    match ← fetchJson readAddresses? (addressesUrl endpoint) accessToken headers with
    | .error e => pure (.error e)
    | .ok addresses => pure (identity profile addresses)

end FederatedLogin.Provider.GitHub
