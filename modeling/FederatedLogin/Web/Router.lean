import FederatedLogin.Web.Endpoints

/-!
# Routing

Which endpoint answers a request. Paths have to agree to the letter; what follows a question mark
does not count. A path that is read with `GET` is also read with `HEAD`, which leaves out the body.
-/

namespace FederatedLogin.Web

/-- A path of the service, the method it takes, and its endpoint. -/
structure Route where
  path : String
  method : String
  endpoint : Endpoint

/-- The paths of the service. -/
def routes : List Route :=
  [⟨"/oauth/token", "POST", exchangeToken⟩,
   ⟨"/userinfo", "GET", userInfo⟩,
   ⟨"/logout", "POST", logout⟩,
   ⟨"/healthcheck", "GET", health⟩]

/-- The methods that a path takes. -/
def Route.methods (r : Route) : List String :=
  if r.method = "GET" then ["GET", "HEAD"] else [r.method]

/-- The text after a scheme, if the text starts with one and two slashes. -/
def afterScheme? (cs : List Char) : Option (List Char) :=
  match cs.span fun c => c.isAlphanum || c ∈ ['+', '-', '.'] with
  | (_ :: _, ':' :: '/' :: '/' :: rest) => some rest
  | _ => none

/-- The path of a request without query and fragment. The target of a request may be a whole
URL. -/
def pathOf (target : String) : String :=
  let cs := target.toList.takeWhile fun c => c ≠ '?' && c ≠ '#'
  match (afterScheme? cs).map (·.dropWhile (· ≠ '/')) with
  | none => String.ofList cs
  | some [] => "/"
  | some path => String.ofList path

/-- Answers a request with an endpoint. Failures are told to the client and to the log. -/
def answerWith (endpoint : Endpoint) (app : App) (r : Request) : Service Response := do
  match ← endpoint app r with
  | .ok response => pure response
  | .error failure => failure.report

/-- Answers a request. -/
def serve (app : App) (r : Request) : Service Response :=
  match routes.find? fun route => route.path = pathOf r.path with
  | none => pure (.empty 404)
  | some route =>
    if r.method ∈ route.methods then do
      let response ← answerWith route.endpoint app r
      pure (if r.method = "HEAD" then { response with body := none } else response)
    else
      pure { Response.empty 405 with allow := some (",".intercalate route.methods) }

/-- The response to a request that was given up because it took too long. -/
def timedOut : Response := .empty 408

end FederatedLogin.Web
