import FederatedLogin.Time.Instant

/-!
# Token sets

Tokens come with lifetimes, counted from the instant of issue. A token set holds instants instead:
`TokenSet.issuedAt` finds them, with default lifetimes where the provider gives none or one that
leaves the calendar.
-/

namespace FederatedLogin

open Time

/-- The lifetimes in seconds that are assumed where a provider gives none. -/
structure Lifetimes where
  access : Int := 3600
  refresh : Int := 2592000
  deriving DecidableEq, Repr, Inhabited

/-- The tokens of one login. -/
structure TokenSet where
  accessToken : String
  refreshToken : Option String
  accessExpires : Instant
  refreshExpires : Instant
  deriving DecidableEq, Repr, Inhabited

/-- The end of a lifetime, given in nanoseconds. In place of one that is too long, or that leaves
the calendar, the default counts; and in place of that, the last instant. -/
def expiry (issued : Instant) (lifetime : Option Int) (default : Int) : Instant :=
  let end? := (lifetime.filter (· ≤ longestSpan)).bind issued.add?
  (end?.or (issued.add? default)).getD .last

/-- A token set issued at an instant. The lifetimes are in nanoseconds, those to assume too; that of
the refresh token counts only if there is one. -/
def TokenSet.issuedAt (issued : Instant) (accessToken : String) (refreshToken : Option String)
    (accessLifetime refreshLifetime : Option Int) (accessDefault refreshDefault : Int) :
    TokenSet where
  accessToken := accessToken
  refreshToken := refreshToken
  accessExpires := expiry issued accessLifetime accessDefault
  refreshExpires :=
    if refreshToken.isSome then expiry issued refreshLifetime refreshDefault else issued

/-- A token set issued at an instant, with lifetimes to assume that are given in seconds. -/
def TokenSet.anchored (issued : Instant) (accessToken : String) (refreshToken : Option String)
    (accessLifetime refreshLifetime : Option Int) (defaults : Lifetimes) : TokenSet :=
  issuedAt issued accessToken refreshToken accessLifetime refreshLifetime
    (seconds defaults.access) (seconds defaults.refresh)

end FederatedLogin

