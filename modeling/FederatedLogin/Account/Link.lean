import FederatedLogin.Account.Tokens
import FederatedLogin.Account.User

/-!
# Links

A link binds a person known to an identity provider to a user, and holds the tokens of the last
login. The tokens and their expiries are not part of its public form.
-/

namespace FederatedLogin

open Time

/-- The binding of an external identity to a user. -/
structure Link where
  userId : Uuid
  /-- The name of the identity provider. -/
  issuer : String
  /-- The provider's own name for the person. -/
  externalId : String
  /-- The access token, empty once it is revoked. -/
  accessToken : String
  /-- The refresh token, empty if there is none. -/
  refreshToken : String
  accessExpires : Instant
  refreshExpires : Instant
  createdAt : Instant
  updatedAt : Instant
  deriving DecidableEq, Repr, Inhabited

namespace Link

open Json

/-- A new link with the tokens of a login. -/
def issued (userId : Uuid) (issuer externalId : String) (tokens : TokenSet) (now : Instant) :
    Link where
  userId := userId
  issuer := issuer
  externalId := externalId
  accessToken := tokens.accessToken
  refreshToken := tokens.refreshToken.getD ""
  accessExpires := tokens.accessExpires
  refreshExpires := tokens.refreshExpires
  createdAt := now
  updatedAt := now

/-- A link whose tokens are revoked. Only its key and its tokens count: they are copied onto the
stored link. -/
def revoked (userId : Uuid) (issuer : String) (now : Instant) : Link where
  userId := userId
  issuer := issuer
  externalId := ""
  accessToken := ""
  refreshToken := ""
  accessExpires := now
  refreshExpires := now
  createdAt := now
  updatedAt := now

/-- The link after another login. A login without a refresh token keeps the old one. -/
def refresh (l : Link) (tokens : TokenSet) (now : Instant) : Link :=
  { l with
    accessToken := tokens.accessToken
    accessExpires := tokens.accessExpires
    refreshToken := tokens.refreshToken.getD l.refreshToken
    refreshExpires := if tokens.refreshToken.isSome then tokens.refreshExpires
      else l.refreshExpires
    updatedAt := now }

/-- The link with the tokens of another one. -/
def withTokensOf (l other : Link) (now : Instant) : Link :=
  { l with
    accessToken := other.accessToken
    refreshToken := other.refreshToken
    accessExpires := other.accessExpires
    refreshExpires := other.refreshExpires
    updatedAt := now }

/-- The link holds no token. -/
def isRevoked (l : Link) : Bool := l.accessToken = "" && l.refreshToken = ""

/-- The public form of a link. -/
def toValue (l : Link) : Value :=
  .object
    [("userId", .string l.userId.render),
     ("issuer", .string l.issuer),
     ("externalId", .string l.externalId),
     ("createdAt", .string l.createdAt.render),
     ("updatedAt", .string l.updatedAt.render)]

end Link

end FederatedLogin
