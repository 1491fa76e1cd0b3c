import FederatedLogin.Session.Basic
import FederatedLogin.Text.Blank
import FederatedLogin.Text.Split

/-!
# Session cookies

Which session a request names, and the cookie that a response sets. Among the cookies of a request
the first one of the right name counts, whether or not its value is an identifier.
-/

namespace FederatedLogin.Session

open Text

/-! ## Reading -/

/-- The character may stand in a header that is read as text. -/
def isVisible (c : Char) : Bool := c = '\t' || (' ' ≤ c && c ≤ '~')

/-- The cookies of a header, between semicolons. -/
def cookies (header : String) : List (List Char) := pieces ';' header.toList

/-- The trimmed name and value of a cookie, if it has an equals sign. -/
def nameAndValue? (cookie : List Char) : Option (List Char × List Char) :=
  (cut? '=' (trim cookie)).map fun (name, value) => (trim name, trim value)

/-- The names and values of all cookies of a request. Headers that are not visible ASCII do not
count. -/
def cookiePairs (headers : List String) : List (List Char × List Char) :=
  ((headers.filter fun h => h.toList.all isVisible).flatMap cookies).filterMap nameAndValue?

/-- The session that a request names. -/
def requestedId? (config : Config) (headers : List String) : Option Uuid :=
  ((cookiePairs headers).find? fun p => p.1 = config.cookieName.toList).bind fun p =>
    Uuid.read? p.2

/-! ## Writing -/

/-- The character may stand in a header that is sent. -/
def isHeaderCharacter (c : Char) : Bool := c = '\t' || (' ' ≤ c && c ≠ '\x7f')

/-- The name of the cookie, its value and its lifetime. A session that has ended clears the
cookie. -/
def cookieStart (config : Config) (s : Session) : String :=
  if s.isEnded then config.cookieName ++ "=; Path=" ++ config.cookiePath ++ "; Max-Age=0"
  else
    config.cookieName ++ "=" ++ s.id.render ++ "; Path=" ++ config.cookiePath
      ++ (if 0 < s.maxAge then "; Max-Age=" ++ String.ofList (decimalInt s.maxAge) else "")

/-- The cookie of a session with all its attributes. -/
def cookieText (config : Config) (s : Session) : String :=
  cookieStart config s
    ++ (match config.domain with
      | none => ""
      | some domain => "; Domain=" ++ domain)
    ++ "; SameSite=" ++ config.sameSite.name
    ++ (if config.httpOnly then "; HttpOnly" else "")
    ++ (if config.secure then "; Secure" else "")

/-- The cookie of a session as the value of a header. -/
def cookie (config : Config) (s : Session) : Except Error String :=
  let text := cookieText config s
  if text.toList.all isHeaderCharacter then .ok text
  else .error (.cookie "failed to parse header value")

end FederatedLogin.Session
