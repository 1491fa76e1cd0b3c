import FederatedLogin.Account.Identity
import FederatedLogin.Account.Tokens
import FederatedLogin.Provider.Error
import FederatedLogin.Text.Digits

/-!
# Stub providers

A provider that answers from fixed data. Its tokens are numbered, and it can be told to fail.
-/

namespace FederatedLogin.Provider

/-- A provider that answers from fixed data. -/
structure Stub where
  name : String
  identity : Identity
  issuesRefreshTokens : Bool := true
  failsExchange : Bool := false
  failsIdentity : Bool := false
  /-- How many codes it was given. -/
  exchanges : Nat := 0
  /-- How often it was asked for an identity. -/
  fetches : Nat := 0
  deriving DecidableEq, Repr, Inhabited

namespace Stub

/-- The identity of a person with a verified address, named by the part before the at sign. -/
def person (subject email : String) : Identity where
  subject := subject
  displayName := String.ofList (email.toList.takeWhile (· ≠ '@'))
  email := email
  emailVerified := true
  avatarUrl := none
  locale := none

/-- The numbered token of a kind. -/
def token (s : Stub) (kind : String) (n : Nat) : String :=
  s.name ++ "-" ++ kind ++ "-" ++ String.ofList (Text.decimal n)

/-- Exchanges a code. -/
def exchange (s : Stub) (now : Time.Instant) (code : String) : Except Error TokenSet × Stub :=
  let n := s.exchanges + 1
  let result :=
    if s.failsExchange then .error (.exchangeFailed ("HTTP 400: code " ++ code ++ " rejected"))
    else
      let refreshToken := if s.issuesRefreshTokens then some (s.token "refresh" n) else none
      .ok (TokenSet.anchored now (s.token "access" n) refreshToken none none {})
  (result, { s with exchanges := n })

/-- Tells who logged in. -/
def fetch (s : Stub) : Except Error Identity × Stub :=
  let result := if s.failsIdentity then .error (.identityFailed "HTTP 503") else .ok s.identity
  (result, { s with fetches := s.fetches + 1 })

end Stub

end FederatedLogin.Provider
