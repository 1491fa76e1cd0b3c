import FederatedLogin.Account.Link
import FederatedLogin.Account.StorageError

/-!
# Tables

The tables of users and links. Users have distinct identifiers and distinct addresses; a user has
one link for each provider, a person known to a provider has one link, and every link belongs to a
user. Rows are only added if these constraints hold afterwards (`addUser`, `addLink`), and a unit of
work adds all its rows or none (`UnitOfWork.commit`).
-/

namespace FederatedLogin

/-- The tables of users and links. -/
structure Tables where
  users : List User := []
  links : List Link := []
  deriving DecidableEq, Repr, Inhabited

namespace Tables

/-- The user with an identifier. -/
def userById? (t : Tables) (id : Uuid) : Option User := t.users.find? fun u => u.id = id

/-- The user with an address. -/
def userByEmail? (t : Tables) (email : String) : Option User :=
  t.users.find? fun u => u.email = email

/-- The link of a user for a provider. -/
def link? (t : Tables) (userId : Uuid) (issuer : String) : Option Link :=
  t.links.find? fun l => l.userId = userId && l.issuer = issuer

/-! ## Adding rows -/

/-- Adds a user whose identifier and address are new. -/
def addUser (t : Tables) (u : User) : Except StorageError Tables :=
  if t.users.any fun v => v.id = u.id then .error (.conflict "users_pkey")
  else if t.users.any fun v => v.email = u.email then .error (.conflict "users_email_key")
  else .ok { t with users := t.users ++ [u] }

/-- Adds a link of a stored user, if both the user and the person are new to the provider. -/
def addLink (t : Tables) (l : Link) : Except StorageError Tables :=
  if !(t.users.any fun u => u.id = l.userId) then .error (.foreignKey "fk_links_user")
  else if t.links.any fun m => m.userId = l.userId && m.issuer = l.issuer then
    .error (.conflict "links_user_id_issuer_key")
  else if t.links.any fun m => m.issuer = l.issuer && m.externalId = l.externalId then
    .error (.conflict "links_issuer_external_id_key")
  else .ok { t with links := t.links ++ [l] }

/-! ## Changing and removing rows -/

/-- The stored link with the tokens and the time of change of another one. -/
def withTokens (stored l : Link) : Link := stored.withTokensOf l l.updatedAt

/-- Copies the tokens of a link onto the stored link of the same user and provider. -/
def updateLink (t : Tables) (l : Link) : Except StorageError Tables :=
  match t.link? l.userId l.issuer with
  | none => .error .notFound
  | some _ =>
    .ok { t with
      links := t.links.map fun m =>
        if m.userId = l.userId ∧ m.issuer = l.issuer then withTokens m l else m }

/-- Removes a user and their links. -/
def removeUser (t : Tables) (id : Uuid) : Tables where
  users := t.users.filter fun u => u.id ≠ id
  links := t.links.filter fun l => l.userId ≠ id

/-! ## Listing rows -/

/-- The users in the order of their creation. -/
def usersByAge (t : Tables) : List User :=
  t.users.mergeSort fun u v =>
    u.createdAt.before v.createdAt || (u.createdAt = v.createdAt && u.id.toNat ≤ v.id.toNat)

/-- The links for some providers: user by user, each in the order of the providers. -/
def linksByUser (t : Tables) (issuers : List String) : List Link :=
  t.usersByAge.flatMap fun u => issuers.filterMap (t.link? u.id)

/-! ## Constraints -/

/-- The constraints on the tables. -/
structure Sound (t : Tables) : Prop where
  distinctIds : t.users.Pairwise fun u v => u.id ≠ v.id
  distinctEmails : t.users.Pairwise fun u v => u.email ≠ v.email
  distinctUserIssuers :
    t.links.Pairwise fun l m => (l.userId, l.issuer) ≠ (m.userId, m.issuer)
  distinctPersons :
    t.links.Pairwise fun l m => (l.issuer, l.externalId) ≠ (m.issuer, m.externalId)
  ownersExist : ∀ l ∈ t.links, ∃ u ∈ t.users, u.id = l.userId

end Tables

/-! ## Units of work -/

/-- Rows that are to be added together. -/
structure UnitOfWork where
  users : List User := []
  links : List Link := []
  finished : Bool := false
  deriving DecidableEq, Repr, Inhabited

namespace UnitOfWork

/-- The unit of work with one more user. -/
def insertUser (w : UnitOfWork) (u : User) : Except StorageError UnitOfWork :=
  if w.finished then .error .transactionClosed else .ok { w with users := w.users ++ [u] }

/-- The unit of work with one more link. -/
def insertLink (w : UnitOfWork) (l : Link) : Except StorageError UnitOfWork :=
  if w.finished then .error .transactionClosed else .ok { w with links := w.links ++ [l] }

/-- The tables with the rows of the unit of work, users first. -/
def apply (w : UnitOfWork) (t : Tables) : Except StorageError Tables := do
  let t ← w.users.foldlM Tables.addUser t
  w.links.foldlM Tables.addLink t

/-- Finishes the unit of work. The tables change only if all its rows can be added. -/
def commit (w : UnitOfWork) (t : Tables) : Except StorageError Unit × UnitOfWork × Tables :=
  if w.finished then (.error .transactionClosed, w, t)
  else
    match w.apply t with
    | .ok t => (.ok (), { w with finished := true }, t)
    | .error e => (.error e, { w with finished := true }, t)

end UnitOfWork

end FederatedLogin
