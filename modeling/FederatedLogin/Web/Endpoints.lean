import FederatedLogin.Provider.Registry
import FederatedLogin.Session.Manager
import FederatedLogin.Settings.Basic
import FederatedLogin.Web.Failure
import FederatedLogin.Web.Health
import FederatedLogin.Web.MediaType

/-!
# Endpoints

What the service does for each kind of request: a login, a look at the user of a session, a logout,
and a report that the service is up.
-/

namespace FederatedLogin.Web

open Json

/-- What the endpoints know besides the request. -/
structure App where
  settings : Settings := {}
  registry : Provider.Registry := {}
  deriving Repr, Inhabited

/-- An endpoint: a request is answered, or fails. -/
abbrev Endpoint := App → Request → Service (Except Failure Response)

/-! ## Logins -/

/-- The largest number of bytes of a body. -/
def bodyLimit : Nat := 2097152

/-- Reads the body of a login request. -/
def readTokenRequest (r : Request) : Except Failure TokenRequest :=
  if !((r.headersNamed "content-type").head?.any isJsonMediaType) then
    .error (.badRequest "Expected request with \x60Content-Type: application/json\x60")
  else if bodyLimit < r.body.utf8ByteSize then
    .error (.badRequest "Failed to buffer the request body: length limit exceeded")
  else
    match TokenRequest.parse r.body with
    | .error .malformed => .error (.badRequest "Failed to parse the request body as JSON")
    | .error .mismatch =>
      .error (.badRequest "Failed to deserialize the JSON body into the target type")
    | .ok request =>
      match request.violations with
      | [] => .ok request
      | violations => .error (.invalid violations)

/-- What a client proves with a login request. -/
def TokenRequest.grant (r : TokenRequest) : Provider.Grant :=
  ⟨r.authorizationCode, r.codeVerifier, r.redirectUri⟩

/-- The body of the answer to a login. -/
def loginValue (user : User) (link : Link) : Value :=
  .object [("user", user.toValue), ("link", link.toValue)]

/-- Starts a session for a person who logged in. -/
def startSession (app : App) (request : TokenRequest) (tokens : TokenSet) (o : Onboarded) :
    Service (Except Failure Response) := do
  let session ← Session.create app.settings.session
  let session := session.authenticate o.user.id request.provider tokens.accessToken
  match ← Session.save app.settings.session session with
  | .error e => pure (.error (.session e))
  | .ok cookie => pure (.ok ((Response.json 200 (loginValue o.user o.link)).withCookie cookie))

/-- Exchanges a code, gives the person a user and a link, and starts a session. -/
def login (app : App) (request : TokenRequest) : Service (Except Failure Response) := do
  match ← app.registry.verify request.provider request.grant with
  | .error e => pure (.error (.provider e))
  | .ok (tokens, identity) =>
    match ← Account.onboard request.provider tokens identity with
    | .error e => pure (.error (.account e))
    | .ok o => startSession app request tokens o

/-- The endpoint of logins. -/
def exchangeToken : Endpoint := fun app r =>
  match readTokenRequest r with
  | .error f => pure (.error f)
  | .ok request => login app request

/-! ## Sessions -/

/-- The session of a request, with its user and provider. Fails if there was no login. -/
def authenticated (app : App) (r : Request) :
    Service (Except Failure (Session × Uuid × String)) := do
  match ← Session.load app.settings.session (r.headersNamed "cookie") with
  | .error e => pure (.error (.session e))
  | .ok session =>
    match session.principal? with
    | none => pure (.error .unauthenticated)
    | some (userId, issuer) => pure (.ok (session, userId, issuer))

/-- The endpoint that tells who is logged in. -/
def userInfo : Endpoint := fun app r => do
  match ← authenticated app r with
  | .error f => pure (.error f)
  | .ok (_, userId, _) =>
    match ← Account.userById userId with
    | .error e => pure (.error (.account e))
    | .ok user => pure (.ok (.json 200 (.object [("user", user.toValue)])))

/-- Ends a session and clears its cookie. -/
def endSession (app : App) (session : Session) : Service (Except Failure Response) := do
  match ← Session.save app.settings.session session.finish with
  | .error e => pure (.error (.session e))
  | .ok cookie => pure (.ok ((Response.empty 204).withCookie cookie))

/-- The endpoint of logouts. A link that is gone does not keep the session from ending. -/
def logout : Endpoint := fun app r => do
  match ← authenticated app r with
  | .error f => pure (.error f)
  | .ok (session, userId, issuer) =>
    match ← Account.revokeLink userId issuer with
    | .ok _ => endSession app session
    | .error .linkNotFound =>
      warn "no link to revoke on logout"
      endSession app session
    | .error e => pure (.error (.account e))

/-! ## Health -/

/-- The endpoint that reports that the service is up. -/
def health : Endpoint := fun app _ => do
  let host ← call .hostname
  let report : Health := ⟨"ok", host.getD app.settings.server.host⟩
  pure (.ok (.json 200 report.toValue))

end FederatedLogin.Web
