import FederatedLogin.Provider.Http
import FederatedLogin.Session.Cookie
import FederatedLogin.Text.Utf8

/-!
# Profiles

How an adapter fetches what a provider knows about a person: a request that shows an access token,
and a response that has to be JSON of the expected shape.
-/

namespace FederatedLogin.Provider

open Json

/-! ## The request -/

/-- The characters of a token that a header can carry. -/
def isHeaderValue (s : String) : Bool := s.toList.all Session.isHeaderCharacter

/-- Why a request cannot even be made. -/
inductive RequestFault where
  /-- The URL or the token is unusable. -/
  | unusable
  /-- The scheme is not one of the web. -/
  | wrongScheme (url : Url)

/-- The text of a fault. -/
def RequestFault.message : RequestFault → String
  | unusable => "builder error"
  | wrongScheme url => "builder error for url (" ++ url.render ++ ")"

/-- The URL names a host. -/
def hasHost (u : Url) : Bool :=
  match u.host with
  | none => false
  | some host => host ≠ .name []

/-- The request for a profile. The token is shown, and a user name in the URL before it. -/
def profileRequest (endpoint accessToken : String) (headers : List (String × String)) :
    Except RequestFault HttpRequest :=
  match Url.parse endpoint with
  | .error _ => .error .unusable
  | .ok url =>
    let bare := withoutUser url
    if !hasHost url then .error (.wrongScheme url)
    else if !isHeaderValue accessToken then .error .unusable
    else if String.ofList url.scheme ∈ ["http", "https"] then
      .ok
        { method := "GET"
          url := bare
          headers := userHeader url ++ [("authorization", "Bearer " ++ accessToken)]
            ++ (if headers.any (·.1 = "accept") then [] else [("accept", "*/*")]) ++ headers }
    else .error (.wrongScheme bare)

/-! ## The response -/

/-- Reads a body. -/
def readBody? {α : Type} (shape : Shape) (ofValue? : Value → Option α) (body : List UInt8) :
    Option α := do
  let cs ← Text.ofBytes? body
  (shape.parse (String.ofList cs)).toOption.bind ofValue?

/-- Fetches JSON of a shape from an endpoint. -/
def fetchJson {α : Type} (readBody? : List UInt8 → Option α) (endpoint accessToken : String)
    (headers : List (String × String)) : Traffic (Except Error α) := do
  let failed (log cause : String) : Traffic (Except Error α) := do
    Traffic.warn log
    pure (.error (.identityFailed cause))
  match profileRequest endpoint accessToken headers with
  | .error fault => failed "userinfo request failed" fault.message
  | .ok request =>
    match ← Traffic.send request with
    | none =>
      failed "userinfo request failed"
        ("error sending request for url (" ++ request.url.render ++ ")")
    | some response =>
      if response.status < 200 ∨ 300 ≤ response.status then
        failed "userinfo endpoint returned an error" ("HTTP " ++ statusText response.status)
      else
        match response.body.bind readBody? with
        | some a => pure (.ok a)
        | none =>
          failed "userinfo response is not valid JSON"
            "Failed to parse JSON: error decoding response body"

end FederatedLogin.Provider
