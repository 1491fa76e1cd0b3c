/-!
# Builds

The service is built for development or for use. A few defaults suit the one or the other.
-/

namespace FederatedLogin

/-- What the service is built for. -/
inductive Build where
  | debug
  | release
  deriving DecidableEq, Repr, Inhabited

end FederatedLogin
