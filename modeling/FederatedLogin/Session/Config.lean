import FederatedLogin.Build
import FederatedLogin.Json.Shape

/-!
# Session options

The options of session cookies and of the store behind them. Options that are left out have their
default values. Cookies go over encrypted connections only, unless the service is built for
development.
-/

namespace FederatedLogin.Session

open Json

/-- When a browser sends a cookie along with requests from other sites. -/
inductive SameSite where
  | strict
  | lax
  | none
  deriving DecidableEq, Repr, Inhabited

namespace SameSite

/-- The name of a policy in a cookie. -/
def name : SameSite → String
  | strict => "Strict"
  | lax => "Lax"
  | none => "None"

/-- The policy of a name. -/
def ofName? (s : String) : Option SameSite := [strict, lax, none].find? (·.name = s)

/-- The written form of a policy. -/
def shape : Shape := .choice ["Strict", "Lax", "None"]

end SameSite

/-- The options of session cookies. What is left out is as in a build for development. -/
structure Config where
  cookieName : String := "idlink_session"
  /-- What stands before the identifier in the key of a session. -/
  keyPrefix : String := "session:"
  cookiePath : String := "/"
  domain : Option String := none
  /-- The lifetime in seconds. With zero, entries stay until they are deleted. -/
  maxAge : Int := 86400
  httpOnly : Bool := true
  /-- Browsers send the cookie over encrypted connections only. -/
  secure : Bool := false
  sameSite : SameSite := .lax
  deriving DecidableEq, Repr, Inhabited

namespace Config

/-- The default options of a build. -/
def standard (build : Build) : Config := { secure := build = .release }

/-- The written form of the options in a build. -/
def shape (build : Build) : Shape :=
  .record
    [(["cookie_name"], .default (.string "idlink_session"), .text),
     (["key_prefix"], .default (.string "session:"), .text),
     (["cookie_path"], .default (.string "/"), .text),
     (["domain"], .default .null, .nullable .text),
     (["max_age_secs"], .default (.integer 86400), .signed 64),
     (["http_only"], .default (.bool true), .flag),
     (["secure"], .default (.bool (standard build).secure), .flag),
     (["same_site"], .default (.string "Lax"), SameSite.shape)]

/-- The options that a value of the shape stands for. -/
def ofValue? (v : Value) : Option Config := do
  some
    { cookieName := ← (← v.member? "cookie_name").string?
      keyPrefix := ← (← v.member? "key_prefix").string?
      cookiePath := ← (← v.member? "cookie_path").string?
      domain := ← (← v.member? "domain").optionalString?
      maxAge := ← (← v.member? "max_age_secs").integer?
      httpOnly := ← (← v.member? "http_only").bool?
      secure := ← (← v.member? "secure").bool?
      sameSite := ← SameSite.ofName? (← (← v.member? "same_site").string?) }

/-- The options as a value. A cookie without a domain leaves it out. -/
def toValue (c : Config) : Value :=
  .object <|
    [("cookie_name", .string c.cookieName),
     ("key_prefix", .string c.keyPrefix),
     ("cookie_path", .string c.cookiePath)]
      ++ Value.present "domain" (c.domain.map .string)
      ++ [("max_age_secs", .integer c.maxAge),
          ("http_only", .bool c.httpOnly),
          ("secure", .bool c.secure),
          ("same_site", .string c.sameSite.name)]

end Config

end FederatedLogin.Session
