import FederatedLogin.Call
import FederatedLogin.Text.Utf8
import FederatedLogin.Url.Basic

/-!
# Requests to providers

What an adapter sends to a provider and what it gets back. An adapter is a program that hands
requests to an HTTP client, reads the clock and writes to the log. The client puts requests on the
wire only if their scheme is one of the web. A user name and a password in a URL are not part of
what is asked for; they are shown in a header.
-/

namespace FederatedLogin.Provider

/-- A request to a provider. -/
structure HttpRequest where
  method : String
  url : Url
  headers : List (String × String)
  body : String := ""
  deriving Repr

/-- The client takes the request: its scheme is one of the web. -/
def HttpRequest.isWeb (r : HttpRequest) : Bool := String.ofList r.url.scheme ∈ ["http", "https"]

/-- A response of a provider. -/
structure HttpResponse where
  status : Nat
  headers : List (String × String) := []
  /-- There is none if the connection broke before its end. -/
  body : Option (List UInt8)
  deriving Repr, Inhabited

/-- The value of the first header of a name, in whatever case it is written. -/
def HttpResponse.header? (r : HttpResponse) (name : String) : Option String :=
  (r.headers.find? fun h => h.1.toLower = name).map Prod.snd

/-! ## User names in URLs -/

/-- The digits of three bytes in base 64. -/
def base64Digit (n : Nat) : Char :=
  "ABCDEFGHIJKLMNOPQRSTUVWXYZabcdefghijklmnopqrstuvwxyz0123456789+/".toList.getD (n % 64) '='

/-- Bytes in base 64. -/
def base64 : List UInt8 → List Char
  | [] => []
  | [a] => [base64Digit (a.toNat / 4), base64Digit (a.toNat * 16), '=', '=']
  | [a, b] =>
    [base64Digit (a.toNat / 4), base64Digit (a.toNat * 16 + b.toNat / 16),
      base64Digit (b.toNat * 4), '=']
  | a :: b :: c :: rest =>
    base64Digit (a.toNat / 4) :: base64Digit (a.toNat * 16 + b.toNat / 16)
      :: base64Digit (b.toNat * 4 + c.toNat / 64) :: base64Digit c.toNat :: base64 rest

/-- The header that a user name and a password in a URL stand for. -/
def userHeader (u : Url) : List (String × String) :=
  if u.username = [] ∧ u.password = [] then []
  else
    let decoded (cs : List Char) := Url.percentDecode (Text.toBytes cs)
    let bytes := decoded u.username ++ 0x3A :: decoded u.password
    [("authorization", "Basic " ++ String.ofList (base64 bytes))]

/-- The URL without user name and password. -/
def withoutUser (u : Url) : Url := { u with username := [], password := [] }

/-! ## Questions -/

/-- A question of an adapter to its surroundings. -/
inductive HttpCall where
  | now
  | log (level : Level) (text : String)
  /-- Hands a request to the client, which may still refuse it. -/
  | send (request : HttpRequest)

namespace HttpCall

/-- What is answered to a question of an adapter. A provider that cannot be reached gives no
response, and there is none to a request that the client refuses. -/
def Answer : HttpCall → Type
  | now => Time.Instant
  | log _ _ => Unit
  | send _ => Option HttpResponse

end HttpCall

/-- A program of an adapter. -/
abbrev Traffic (α : Type) := Program HttpCall HttpCall.Answer α

namespace Traffic

/-- The time. -/
def now : Traffic Time.Instant := Program.question HttpCall.now

/-- Writes a warning to the log. -/
def warn (text : String) : Traffic Unit := Program.question (HttpCall.log .warning text)

/-- Hands a request to the client. -/
def send (request : HttpRequest) : Traffic (Option HttpResponse) :=
  Program.question (HttpCall.send request)

end Traffic

/-- The phrase that goes with a status, for the statuses that have one. -/
def reasonPhrase? (status : Nat) : Option String := phrases.lookup status
where
  /-- The registered statuses. -/
  phrases : List (Nat × String) :=
    [(100, "Continue"), (101, "Switching Protocols"), (102, "Processing"), (103, "Early Hints"),
     (200, "OK"), (201, "Created"), (202, "Accepted"), (203, "Non Authoritative Information"),
     (204, "No Content"), (205, "Reset Content"), (206, "Partial Content"), (207, "Multi-Status"),
     (208, "Already Reported"), (226, "IM Used"), (300, "Multiple Choices"),
     (301, "Moved Permanently"), (302, "Found"), (303, "See Other"), (304, "Not Modified"),
     (305, "Use Proxy"), (307, "Temporary Redirect"), (308, "Permanent Redirect"),
     (400, "Bad Request"), (401, "Unauthorized"), (402, "Payment Required"), (403, "Forbidden"),
     (404, "Not Found"), (405, "Method Not Allowed"), (406, "Not Acceptable"),
     (407, "Proxy Authentication Required"), (408, "Request Timeout"), (409, "Conflict"),
     (410, "Gone"), (411, "Length Required"), (412, "Precondition Failed"),
     (413, "Payload Too Large"), (414, "URI Too Long"), (415, "Unsupported Media Type"),
     (416, "Range Not Satisfiable"), (417, "Expectation Failed"), (418, "I'm a teapot"),
     (421, "Misdirected Request"), (422, "Unprocessable Entity"), (423, "Locked"),
     (424, "Failed Dependency"), (425, "Too Early"), (426, "Upgrade Required"),
     (428, "Precondition Required"), (429, "Too Many Requests"),
     (431, "Request Header Fields Too Large"), (451, "Unavailable For Legal Reasons"),
     (500, "Internal Server Error"), (501, "Not Implemented"), (502, "Bad Gateway"),
     (503, "Service Unavailable"), (504, "Gateway Timeout"), (505, "HTTP Version Not Supported"),
     (506, "Variant Also Negotiates"), (507, "Insufficient Storage"), (508, "Loop Detected"),
     (510, "Not Extended"), (511, "Network Authentication Required")]

/-- A status with its phrase. -/
def statusText (status : Nat) : String :=
  String.ofList (Text.decimal status) ++ " " ++ (reasonPhrase? status).getD "<unknown status code>"

end FederatedLogin.Provider
