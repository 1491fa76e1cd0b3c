import FederatedLogin.Json.Shape

/-!
# Health reports

The answer that says that the service is up.
-/

namespace FederatedLogin.Web

open Json

/-- The state of the service, and the host on which it runs. -/
structure Health where
  status : String
  host : String
  deriving DecidableEq, Repr, Inhabited

namespace Health

/-- The written form of a report. -/
def shape : Shape := .record [(["status"], .refused, .text), (["host"], .refused, .text)]

/-- The report that a value of the shape stands for. -/
def ofValue? (v : Value) : Option Health := do
  some ⟨← (← v.member? "status").string?, ← (← v.member? "host").string?⟩

/-- A report as a value. -/
def toValue (h : Health) : Value := .object [("status", .string h.status), ("host", .string h.host)]

end Health

end FederatedLogin.Web
