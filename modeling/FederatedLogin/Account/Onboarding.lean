import FederatedLogin.Call

/-!
# Onboarding

A person who logs in is given a user and a link, which are created or refreshed as needed. Two
logins may race: the one that loses meets a conflict, and then looks a second time at what is
stored.
-/

namespace FederatedLogin

/-- Why an account could not be found or changed. -/
inductive AccountError where
  | userNotFound
  | linkNotFound
  | storage (error : StorageError)
  deriving DecidableEq, Repr, Inhabited

/-- The name of the kind of an error. -/
def AccountError.kind : AccountError → String
  | userNotFound => "UserNotFound"
  | linkNotFound => "LinkNotFound"
  | storage error => "Repository." ++ error.kind

/-- The text of an error. -/
def AccountError.message : AccountError → String
  | userNotFound => "User not found"
  | linkNotFound => "Link not found"
  | storage error => error.message

/-- What a login changed. -/
inductive Outcome where
  | createdUser
  | linkedProvider
  | refreshedLink
  deriving DecidableEq, Repr, Inhabited

/-- The name of an outcome. -/
def Outcome.name : Outcome → String
  | createdUser => "CreatedUser"
  | linkedProvider => "LinkedProvider"
  | refreshedLink => "RefreshedLink"

/-- The user and the link of a login. -/
structure Onboarded where
  user : User
  link : Link
  outcome : Outcome
  deriving DecidableEq, Repr, Inhabited

namespace Account

/-- The error of a missing record, and other errors as they are. -/
def orMissing (missing : AccountError) : StorageError → AccountError
  | .notFound => missing
  | error => .storage error

/-- Does work inside a unit of work, and commits it if the work succeeds. -/
def inTransaction {α : Type} (work : Service (Except StorageError α)) :
    Service (Except StorageError α) := do
  match ← call .begin with
  | .error e => pure (.error e)
  | .ok () =>
    match ← work with
    | .error e => pure (.error e)
    | .ok a =>
      match ← call .commit with
      | .error e => pure (.error e)
      | .ok () => pure (.ok a)

/-- The user with an identifier. -/
def userById (id : Uuid) : Service (Except AccountError User) := do
  match ← call (.userById id) with
  | .ok user => pure (.ok user)
  | .error e => pure (.error (orMissing .userNotFound e))

/-- The user with an address. -/
def userByEmail (email : String) : Service (Except AccountError User) := do
  match ← call (.userByEmail email) with
  | .ok user => pure (.ok user)
  | .error e => pure (.error (orMissing .userNotFound e))

/-! ## Logins -/

/-- Adds a user and a link. -/
def insertBoth (user : User) (link : Link) : Service (Except StorageError Unit) := do
  match ← call (.insertUser user) with
  | .error e => pure (.error e)
  | .ok () => call (.insertLink link)

/-- The result of a login, unless storage failed. -/
def finished (user : User) (link : Link) (outcome : Outcome) :
    Except StorageError Unit → Except AccountError Onboarded
  | .ok () => .ok ⟨user, link, outcome⟩
  | .error e => .error (.storage e)

/-- Creates a user and a link for a person whose address is not known. -/
def createUser (issuer : String) (tokens : TokenSet) (identity : Identity) (now : Time.Instant) :
    Service (Except AccountError Onboarded) := do
  let id ← call .newUserId
  let user := User.ofIdentity id identity now
  let link := Link.issued id issuer identity.subject tokens now
  finished user link .createdUser <$> inTransaction (insertBoth user link)

/-- Links a known user to another provider. -/
def linkProvider (user : User) (issuer : String) (tokens : TokenSet) (identity : Identity)
    (now : Time.Instant) : Service (Except AccountError Onboarded) := do
  let link := Link.issued user.id issuer identity.subject tokens now
  finished user link .linkedProvider <$> inTransaction (call (.insertLink link))

/-- Stores the tokens of another login with the same provider. The link stays as it is, even if the
provider has another name for the person now. -/
def refreshLink (user : User) (link : Link) (tokens : TokenSet) (identity : Identity)
    (now : Time.Instant) : Service (Except AccountError Onboarded) := do
  if link.externalId ≠ identity.subject then
    warn "provider subject differs from the linked one, keeping the link"
  let link := link.refresh tokens now
  finished user link .refreshedLink <$> call (.updateLink link)

/-- Finds or creates the user and the link of a login. -/
def resolve (issuer : String) (tokens : TokenSet) (identity : Identity) :
    Service (Except AccountError Onboarded) := do
  let now ← call .now
  match ← call (.userByEmail identity.email) with
  | .error .notFound => createUser issuer tokens identity now
  | .error e => pure (.error (.storage e))
  | .ok user =>
    match ← call (.linkOf user.id issuer) with
    | .error .notFound => linkProvider user issuer tokens identity now
    | .error e => pure (.error (.storage e))
    | .ok link => refreshLink user link tokens identity now

/-- Gives a person who logged in a user and a link. After a conflict, tries once more. -/
def onboard (issuer : String) (tokens : TokenSet) (identity : Identity) :
    Service (Except AccountError Onboarded) := do
  match ← resolve issuer tokens identity with
  | .error (.storage (.conflict _)) =>
    warn "onboarding raced with another login, re-reading"
    resolve issuer tokens identity
  | result => pure result

/-! ## Changing tokens -/

/-- Copies the tokens of a link onto the stored link of the same user and provider. -/
def updateLink (link : Link) : Service (Except AccountError Link) := do
  match ← call (.linkOf link.userId link.issuer) with
  | .error e => pure (.error (orMissing .linkNotFound e))
  | .ok stored =>
    let now ← call .now
    let changed := stored.withTokensOf link now
    match ← call (.updateLink changed) with
    | .error e => pure (.error (orMissing .linkNotFound e))
    | .ok () => pure (.ok changed)

/-- Removes the tokens of the link of a user for a provider. -/
def revokeLink (userId : Uuid) (issuer : String) : Service (Except AccountError Link) := do
  let now ← call .now
  updateLink (Link.revoked userId issuer now)

end Account

end FederatedLogin
