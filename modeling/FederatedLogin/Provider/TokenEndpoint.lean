import FederatedLogin.Json.Shape
import FederatedLogin.Provider.Http
import FederatedLogin.Text.Utf8
import FederatedLogin.Url.Form

/-!
# Token endpoints

The request that exchanges an authorization code for tokens, and the reading of the response. The
credentials of the service travel in the body. A response that is not the expected one is an error
of the endpoint, a body that cannot be read, or some other mishap.
-/

namespace FederatedLogin.Provider

open Json

/-! ## The request -/

/-- What the body of the request says. -/
def grantParameters (clientId clientSecret : String) (grant : Grant) : List (String × String) :=
  [("grant_type", "authorization_code"),
   ("code", grant.code),
   ("code_verifier", grant.verifier),
   ("client_id", clientId),
   ("client_secret", clientSecret),
   ("redirect_uri", grant.redirectUri)]

/-- The request that exchanges a code. A user name in the URL is shown. -/
def exchangeRequest (endpoint : Url) (clientId clientSecret : String) (grant : Grant) :
    HttpRequest where
  method := "POST"
  url := withoutUser endpoint
  headers := userHeader endpoint
    ++ [("accept", "application/json"), ("content-type", "application/x-www-form-urlencoded")]
  body := String.ofList (Url.formBody (grantParameters clientId clientSecret grant))

/-! ## The response -/

/-- The fields of a response that count. -/
structure TokenResponse where
  accessToken : String
  /-- In seconds. -/
  expiresIn : Option Nat
  refreshToken : Option String
  /-- In seconds. -/
  refreshExpiresIn : Option Nat
  deriving DecidableEq, Repr, Inhabited

/-- Why there are no tokens. -/
inductive ExchangeFault where
  /-- The endpoint says why. -/
  | refused (text : String)
  | unreachable
  | unreadable
  | other (text : String)
  deriving DecidableEq, Repr

namespace ExchangeFault

/-- The text of a fault. -/
def message : ExchangeFault → String
  | refused text => "Server returned error response: " ++ text
  | unreachable => "Request failed"
  | unreadable => "Failed to parse server response"
  | other text => "Other error: " ++ text

/-- The log line for a fault. -/
def logLine : ExchangeFault → String
  | refused _ => "token endpoint rejected the exchange"
  | unreachable => "token request failed"
  | unreadable => "token endpoint returned an undecodable body"
  | other _ => "token exchange failed"

end ExchangeFault

/-- The written form of an error of a token endpoint. -/
def refusalShape : Shape :=
  .record
    [(["error"], .refused, .text),
     (["error_description"], .default .null, .nullable .text),
     (["error_uri"], .default .null, .nullable .text)]

/-- The text of an error of a token endpoint. -/
def refusalText? (v : Value) : Option String := do
  let error ← (← v.member? "error").string?
  let description ← (← v.member? "error_description").optionalString?
  let uri ← (← v.member? "error_uri").optionalString?
  some <| error ++ (description.map (": " ++ ·)).getD ""
    ++ (uri.map fun u => " (see " ++ u ++ ")").getD ""

/-- Reads a value off the front of a body. -/
def readPrefix? (reader : Reader Value) (body : List UInt8) : Option Value := do
  let cs ← Text.ofBytes? body
  let (v, _) ← (reader cs).toOption
  some v

/-- The fault that a response with another status than 200 amounts to. -/
def refusal (body : List UInt8) : ExchangeFault :=
  if body = [] then .other "server returned empty error response"
  else
    match (readPrefix? refusalShape.read body).bind refusalText? with
    | some text => .refused text
    | none => .unreadable

/-- The only value of a name among the members, `null` if there is none. -/
def onlyMember? (name : String) (members : List (String × Value)) : Option Value :=
  match members.filter fun m => m.1 = name with
  | [] => some .null
  | [(_, v)] => some v
  | _ => none

/-- A number of 64 bits, or none for `null`. -/
def word64? : Value → Option (Option Nat)
  | .null => some none
  | .integer (.ofNat n) => if n < twoPow 64 then some (some n) else none
  | _ => none

/-- The response that an object stands for. Members of other names do not count. -/
def TokenResponse.ofValue? : Value → Option TokenResponse
  | .object members => do
    let accessToken ← (← onlyMember? "access_token" members).string?
    let _ ← (← onlyMember? "token_type" members).string?
    let expiresIn ← word64? (← onlyMember? "expires_in" members)
    let refreshToken ← (← onlyMember? "refresh_token" members).optionalString?
    let _ ← (← onlyMember? "scope" members).optionalString?
    let refreshExpiresIn ← word64? (← onlyMember? "refresh_token_expires_in" members)
    some ⟨accessToken, expiresIn, refreshToken, refreshExpiresIn⟩
  | _ => none

/-- A header value between quotes, with quotes inside escaped. -/
def quotedHeader (s : String) : String :=
  String.ofList ('"' :: s.toList.flatMap (fun c => if c = '"' then ['\\', '"'] else [c]) ++ ['"'])

/-- The name of the type of JSON bodies. -/
def jsonType : String := "application/json"

/-- The type of a response is that of JSON, or is not given. -/
def hasJsonType (r : HttpResponse) : Bool :=
  (r.header? "content-type").all fun s => jsonType.toList.isPrefixOf (s.toLower.toList)

/-- Reads the response of a token endpoint. -/
def readTokenResponse (r : Option HttpResponse) : Except ExchangeFault TokenResponse :=
  match r with
  | none => .error .unreachable
  | some r =>
    match r.body with
    | none => .error .unreachable
    | some body =>
      if r.status ≠ 200 then .error (refusal body)
      else if !hasJsonType r then
        .error (.other ("unexpected response Content-Type: "
          ++ quotedHeader ((r.header? "content-type").getD "") ++ ", should be \x60" ++ jsonType
          ++ "\x60"))
      else if body = [] then .error (.other "server returned empty response body")
      else
        match (readPrefix? (readValue .keep maxDepth) body).bind TokenResponse.ofValue? with
        | some response => .ok response
        | none => .error .unreadable

/-- The token set of a response, issued now. An empty refresh token counts as none. -/
def TokenResponse.tokens (r : TokenResponse) (now : Time.Instant) (lifetimes : Lifetimes) :
    TokenSet :=
  TokenSet.anchored now r.accessToken (r.refreshToken.filter (· ≠ ""))
    (r.expiresIn.map fun n : Nat => Time.seconds n)
    (r.refreshExpiresIn.map fun n : Nat => Time.seconds n) lifetimes

end FederatedLogin.Provider
