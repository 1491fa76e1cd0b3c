/-!
# Failures of providers

Why a login with an identity provider fails.
-/

namespace FederatedLogin.Provider

/-- Why a provider could not be used. -/
inductive Error where
  /-- No provider has the name. -/
  | unknown (name : String)
  /-- The code was not exchanged for tokens. -/
  | exchangeFailed (cause : String)
  /-- The provider did not say who logged in. -/
  | identityFailed (cause : String)
  /-- The settings of the provider are unusable. -/
  | misconfigured (cause : String)
  deriving DecidableEq, Repr, Inhabited

/-- The name of the kind of an error. -/
def Error.kind : Error → String
  | unknown _ => "InvalidProvider"
  | exchangeFailed _ => "TokenExchangeFailed"
  | identityFailed _ => "UserInfoFailed"
  | misconfigured _ => "Configuration"

/-- The text of an error. -/
def Error.message : Error → String
  | unknown name => "Invalid OAuth2 provider: " ++ name
  | exchangeFailed cause => "Failed to exchange authorization code for token: " ++ cause
  | identityFailed cause => "Failed to fetch user information: " ++ cause
  | misconfigured cause => "Invalid OAuth2 provider configuration: " ++ cause

/-- What a client shows to prove that a person logged in with a provider. -/
structure Grant where
  code : String
  verifier : String
  redirectUri : String
  deriving DecidableEq, Repr, Inhabited

end FederatedLogin.Provider
