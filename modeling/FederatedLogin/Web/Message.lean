import FederatedLogin.Json.Value

/-!
# Requests and responses

What a client sends and what it is answered, as far as the service looks at it.
-/

namespace FederatedLogin.Web

/-- A request. The names of headers are in lower case. -/
structure Request where
  method : String
  path : String
  headers : List (String × String) := []
  body : String := ""
  deriving Repr, Inhabited

namespace Request

/-- The values of all headers of a name. -/
def headersNamed (r : Request) (name : String) : List String :=
  (r.headers.filter fun h => h.1 = name).map Prod.snd

end Request

/-- A response. -/
structure Response where
  status : Nat
  contentType : Option String := none
  setCookie : Option String := none
  /-- The methods that the path allows, if the method of the request is not among them. -/
  allow : Option String := none
  body : Option Json.Value := none
  deriving Repr, Inhabited

namespace Response

/-- A response whose body is a value. -/
def json (status : Nat) (body : Json.Value) : Response where
  status := status
  contentType := some "application/json"
  body := some body

/-- A response with a status only. -/
def empty (status : Nat) : Response := { status }

/-- The response with a cookie. -/
def withCookie (r : Response) (cookie : String) : Response := { r with setCookie := some cookie }

end Response

end FederatedLogin.Web
