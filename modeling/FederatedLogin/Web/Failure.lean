import FederatedLogin.Account.Onboarding
import FederatedLogin.Web.Message
import FederatedLogin.Web.TokenRequest

/-!
# Failed requests

Why a request fails, and what the client is told. Details that could help an attacker go to the log
only: the client learns a status, a code and a message that depend on the kind of the failure.
-/

namespace FederatedLogin.Web

open Json

/-- Why a request fails. -/
inductive Failure where
  | badRequest (reason : String)
  | invalid (violations : List Violation)
  | unauthenticated
  | provider (error : Provider.Error)
  | account (error : AccountError)
  | session (error : Session.Error)
  deriving DecidableEq, Repr

namespace Failure

/-- The status of the response. -/
def status : Failure → Nat
  | badRequest _ => 400
  | invalid _ => 400
  | provider (.unknown _) => 400
  | unauthenticated => 401
  | account .userNotFound => 404
  | account .linkNotFound => 404
  | provider _ => 500
  | account (.storage _) => 500
  | session _ => 500

/-- The code of the failure. -/
def code : Failure → String
  | badRequest _ => "bad_request"
  | invalid _ => "validation_failed"
  | unauthenticated => "unauthenticated"
  | provider (.unknown _) => "invalid_provider"
  | provider (.exchangeFailed _) => "token_exchange_failed"
  | provider (.identityFailed _) => "identity_fetch_failed"
  | provider (.misconfigured _) => "provider_misconfigured"
  | account .userNotFound => "user_not_found"
  | account .linkNotFound => "link_not_found"
  | account (.storage _) => "persistence_failed"
  | session _ => "session_unavailable"

/-- The message for the client. -/
def publicMessage : Failure → String
  | badRequest reason => reason
  | invalid _ => "request validation failed"
  | unauthenticated => "a valid session is required"
  | provider (.unknown name) => "unknown provider '" ++ name ++ "'"
  | provider (.exchangeFailed _) => "the identity provider rejected the authorization code"
  | provider (.identityFailed _) => "the identity provider did not return a usable identity"
  | provider (.misconfigured _) => "identity provider misconfigured"
  | account .userNotFound => "user not found"
  | account .linkNotFound => "link not found"
  | account (.storage _) => "failed to persist account"
  | session _ => "session storage unavailable"

/-- The message for the log. -/
def message : Failure → String
  | badRequest reason => "Bad request: " ++ reason
  | invalid violations => "Validation failed: " ++ ", ".intercalate (violations.map (·.field))
  | unauthenticated => "Not authenticated"
  | provider error => error.message
  | account error => error.message
  | session error => error.message

/-- The messages of broken rules under the names of their fields, in order of the names. -/
def details (violations : List Violation) : Value :=
  let fields := ((violations.map (·.field)).eraseDups).mergeSort (· ≤ ·)
  .object <| fields.map fun field =>
    (field, .array <| (violations.filter (·.field = field)).map fun v =>
      .string (v.message.getD v.code))

/-- The response to the client. -/
def response (f : Failure) : Response :=
  .json f.status <| .object <|
    [("error", .string f.code), ("message", .string f.publicMessage)] ++
      (match f with
      | invalid violations => [("details", details violations)]
      | _ => [])

/-- Tells the client about a failure, and writes it to the log. -/
def report (f : Failure) : Service Response := do
  if 500 ≤ f.status then call (.log .error "request failed")
  else warn "request rejected"
  pure f.response

end Failure

end FederatedLogin.Web
