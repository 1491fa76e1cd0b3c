import FederatedLogin.Json.Shape
import FederatedLogin.Url.Basic

/-!
# Login requests

The body of a login request, and the rules that it has to keep. Each field has one rule; a broken
rule has a code and a message.
-/

namespace FederatedLogin.Web

open Json

/-- The body of a login request. -/
structure TokenRequest where
  provider : String := ""
  authorizationCode : String := ""
  codeVerifier : String := ""
  redirectUri : String := ""
  deriving DecidableEq, Repr, Inhabited

/-- A rule that a field breaks. -/
structure Violation where
  field : String
  code : String
  message : Option String
  deriving DecidableEq, Repr, Inhabited

namespace TokenRequest

/-- The written form of a login request. -/
def shape : Shape :=
  .record
    [(["provider"], .default (.string ""), .text),
     (["authorizationCode"], .default (.string ""), .text),
     (["codeVerifier"], .default (.string ""), .text),
     (["redirectUri"], .default (.string ""), .text)]

/-- The login request that a value of the shape stands for. -/
def ofValue? (v : Value) : Option TokenRequest := do
  some
    { provider := ← (← v.member? "provider").string?
      authorizationCode := ← (← v.member? "authorizationCode").string?
      codeVerifier := ← (← v.member? "codeVerifier").string?
      redirectUri := ← (← v.member? "redirectUri").string? }

/-- Reads a login request. -/
def parse (text : String) : Except Fault TokenRequest := do
  let v ← shape.parse text
  match ofValue? v with
  | some request => .ok request
  | none => .error .mismatch

/-- A rule as a list: empty if it is kept. -/
def rule (kept : Bool) (field code message : String) : List Violation :=
  if kept then [] else [⟨field, code, some message⟩]

/-- The text is an absolute URL. -/
def isUrl (s : String) : Bool := (Url.parse s).toOption.isSome

/-- The rules that a login request breaks, in the order of the fields. -/
def violations (r : TokenRequest) : List Violation :=
  rule (1 ≤ r.provider.length) "provider" "length" "provider is required"
    ++ rule (1 ≤ r.authorizationCode.length) "authorization_code" "length"
      "authorizationCode is required"
    ++ rule (43 ≤ r.codeVerifier.length && r.codeVerifier.length ≤ 128) "code_verifier" "length"
      "codeVerifier must be 43 to 128 characters"
    ++ rule (isUrl r.redirectUri) "redirect_uri" "url" "redirectUri must be an absolute URL"

end TokenRequest

end FederatedLogin.Web
