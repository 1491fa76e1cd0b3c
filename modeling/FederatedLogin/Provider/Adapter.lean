import FederatedLogin.Provider.Credentials
import FederatedLogin.Provider.GitHub
import FederatedLogin.Provider.Google
import FederatedLogin.Provider.TokenEndpoint

/-!
# Adapters

An adapter knows the endpoints of a provider, the credentials of the service there, and the
lifetimes to assume for tokens.
-/

namespace FederatedLogin.Provider

/-- The providers for which there is an adapter. -/
inductive Kind where
  | google
  | github
  deriving DecidableEq, Repr, Inhabited

namespace Kind

/-- The name under which a provider is offered. -/
def name : Kind → String
  | google => Google.name
  | github => GitHub.name

/-- The usual endpoint for codes. -/
def tokenUrl : Kind → String
  | google => Google.tokenUrl
  | github => GitHub.tokenUrl

/-- The usual endpoint for profiles. -/
def userinfoUrl : Kind → String
  | google => Google.userinfoUrl
  | github => GitHub.userUrl

end Kind

/-- What is needed to talk to a provider. -/
structure Adapter where
  kind : Kind
  clientId : String
  clientSecret : String
  tokenUrl : Url
  userinfoUrl : String
  lifetimes : Lifetimes
  deriving Repr

namespace Adapter

/-- The adapter for a provider with the given credentials. -/
def ofCredentials (kind : Kind) (c : Credentials) (lifetimes : Lifetimes) :
    Except Error Adapter :=
  match Url.parse (c.tokenUrl.getD kind.tokenUrl) with
  | .error fault =>
    .error (.misconfigured ("Invalid token URL for " ++ kind.name ++ ": " ++ fault.message))
  | .ok tokenUrl =>
    .ok
      { kind := kind
        clientId := c.clientId
        clientSecret := c.clientSecret
        tokenUrl := tokenUrl
        userinfoUrl := c.userinfoUrl.getD kind.userinfoUrl
        lifetimes := lifetimes }

/-- The adapter for a provider, if there are credentials for it. -/
def ofCredentials? (kind : Kind) (c : Option Credentials) (lifetimes : Lifetimes) :
    Except Error (List Adapter) :=
  match c with
  | none => .ok []
  | some c => (ofCredentials kind c lifetimes).map fun a => [a]

/-- The adapters for all providers with credentials. -/
def ofConfig (c : Config) (lifetimes : Lifetimes) : Except Error (List Adapter) := do
  let google ← ofCredentials? .google c.google lifetimes
  let github ← ofCredentials? .github c.github lifetimes
  .ok (google ++ github)

/-- Exchanges a code for tokens. Of the endpoint it is only known that it is a URL: if its scheme is
none of the web, the client refuses the request, as if the provider could not be reached. -/
def exchange (a : Adapter) (grant : Grant) : Traffic (Except Error TokenSet) :=
  match Url.parse grant.redirectUri with
  | .error fault => pure (.error (.exchangeFailed ("Invalid redirect URI: " ++ fault.message)))
  | .ok _ => do
    let response ← Traffic.send (exchangeRequest a.tokenUrl a.clientId a.clientSecret grant)
    match readTokenResponse response with
    | .error fault =>
      Traffic.warn fault.logLine
      pure (.error (.exchangeFailed fault.message))
    | .ok response =>
      let now ← Traffic.now
      pure (.ok (response.tokens now a.lifetimes))

/-- Fetches the identity behind a token. -/
def fetchIdentity (a : Adapter) (accessToken : String) : Traffic (Except Error Identity) :=
  match a.kind with
  | .google => Google.fetchIdentity a.userinfoUrl accessToken
  | .github => GitHub.fetchIdentity a.userinfoUrl accessToken

end Adapter

end FederatedLogin.Provider
