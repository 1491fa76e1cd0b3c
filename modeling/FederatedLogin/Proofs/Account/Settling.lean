import FederatedLogin.Account.Onboarding
import FederatedLogin.Proofs.Backend.Frame

/-!
# How logins end

A login that runs alone comes to its end. It has stored what its result says, in one of three ways,
or storage failed and users and links are as before it (`Settles`): a transaction adds all rows of
its work or none, whichever of its calls is refused, tokens that are refused are not stored, and the
second look after a conflict starts from the tables of the first one. This holds whatever failures
are scripted and whatever the tables hold (`gives_onboard_settles`).
-/

namespace FederatedLogin

namespace Account

open Backend

variable {β : Type} {b b' : Backend}

/-! ## Calls that leave the tables alone -/

/-- The call is on users and links, and leaves the tables alone. -/
def spares : Call → Bool
  | .updateLink _ | .commit => false
  | c => onAccounts c

/-- The rule for a call that leaves the tables alone. -/
theorem gives_spares {c : Call} {post : c.Answer → Backend → Prop} (hc : spares c = true)
    (h : ∀ a (b' : Backend), b.answer c = .ok (a, b') → b'.tables = b.tables → post a b') :
    b.Gives (call c) post := by
  have known : onAccounts c = true := by
    cases c <;> first | rfl | cases hc
  refine gives_onAccounts known fun a b' ha => h a b' ha ?_
  obtain same | ⟨l, rfl, -⟩ | ⟨rfl, -⟩ := tables_of_answer ha
  · exact same
  · cases hc
  · cases hc

theorem gives_spares_bind {c : Call} {f : c.Answer → Service β} {post : β → Backend → Prop}
    (hc : spares c = true)
    (h : ∀ a (b' : Backend), b.answer c = .ok (a, b') → b'.tables = b.tables →
      b'.Gives (f a) post) : b.Gives (call c >>= f) post :=
  Gives.bind (gives_spares hc h)

/-! ## Transactions -/

/-- The end of a transaction: the rows of its work were added, or the tables are as before. -/
inductive Commits (t : Tables) (w : UnitOfWork) : Except StorageError Unit → Tables → Prop
  | committed {t' : Tables} : w.apply t = .ok t' → Commits t w (.ok ()) t'
  | spared (e : StorageError) : Commits t w (.error e) t

/-- A transaction adds the rows of its work, or leaves the tables alone. -/
theorem gives_inTransaction_commits {work : Service (Except StorageError Unit)} {w : UnitOfWork}
    (h : ∀ b₁ : Backend, b₁.work = {} →
      b₁.Gives work fun r b₂ => b₂.tables = b₁.tables ∧ (r = .ok () → b₂.work = w)) :
    b.Gives (inTransaction work) fun r b' => Commits b.tables w r b'.tables := by
  unfold inTransaction
  refine gives_spares_bind rfl fun began b₁ ha same => ?_
  rw [← same]
  cases began with
  | error e => exact gives_pure (.spared e)
  | ok _ =>
    refine Gives.bind ((h b₁ (work_of_begin ha)).mono ?_)
    rintro worked b₂ ⟨same, rows⟩
    rw [← same]
    cases worked with
    | error e => exact gives_pure (.spared e)
    | ok _ =>
      obtain rfl := rows rfl
      refine Gives.bind (gives_onAccounts rfl fun committed b₃ ha => ?_)
      cases committed with
      | error e =>
        rw [← tables_of_refused_commit ha]
        exact gives_pure (.spared e)
      | ok _ => exact gives_pure (.committed (apply_of_answer ha))

theorem gives_insertLink_rows (l : Link) :
    b.Gives (call (.insertLink l)) fun r b' => b'.tables = b.tables ∧
      (r = .ok () → b'.work = { b.work with links := b.work.links ++ [l] }) := by
  refine gives_spares rfl fun inserted b' ha same => ⟨same, ?_⟩
  rintro rfl
  exact work_of_insertLink ha

theorem gives_insertOne_rows (l : Link) (empty : b.work = {}) :
    b.Gives (call (.insertLink l)) fun r b' => b'.tables = b.tables ∧
      (r = .ok () → b'.work = { links := [l] }) := by
  have rows := gives_insertLink_rows (b := b) l
  rwa [empty] at rows

theorem gives_insertBoth_rows (user : User) (l : Link) (empty : b.work = {}) :
    b.Gives (insertBoth user l) fun r b' => b'.tables = b.tables ∧
      (r = .ok () → b'.work = { users := [user], links := [l] }) := by
  unfold insertBoth
  refine gives_spares_bind rfl fun inserted b₁ ha same => ?_
  cases inserted with
  | error e => exact gives_pure ⟨same, nofun⟩
  | ok _ =>
    have rows := gives_insertLink_rows (b := b₁) l
    rw [same, work_of_insertUser ha, empty] at rows
    exact rows

/-! ## Logins -/

/-- The end of a login, from the tables before it: it stored what its result says, or storage failed
and the tables are as before. -/
inductive Settles (t : Tables) (issuer : String) (tokens : TokenSet) (identity : Identity) :
    Except AccountError Onboarded → Tables → Prop
  /-- The link that the user has for the provider was refreshed. -/
  | refreshed {user : User} {link : Link} {t' : Tables} (now : Time.Instant) :
      t.userByEmail? identity.email = some user → t.link? user.id issuer = some link →
      t.updateLink (link.refresh tokens now) = .ok t' →
      Settles t issuer tokens identity (.ok ⟨user, link.refresh tokens now, .refreshedLink⟩) t'
  /-- A link for the provider was added. -/
  | linked {user : User} {t' : Tables} (now : Time.Instant) :
      t.userByEmail? identity.email = some user →
      t.addLink (Link.issued user.id issuer identity.subject tokens now) = .ok t' →
      Settles t issuer tokens identity
        (.ok ⟨user, Link.issued user.id issuer identity.subject tokens now, .linkedProvider⟩) t'
  /-- A user and a link were added. -/
  | created {t' : Tables} (id : Uuid) (now : Time.Instant) :
      UnitOfWork.apply
        { users := [User.ofIdentity id identity now]
          links := [Link.issued id issuer identity.subject tokens now] } t = .ok t' →
      Settles t issuer tokens identity
        (.ok ⟨User.ofIdentity id identity now,
          Link.issued id issuer identity.subject tokens now, .createdUser⟩) t'
  | failed (cause : StorageError) : Settles t issuer tokens identity (.error (.storage cause)) t

/-- A login fails because storage failed, and leaves the tables alone. -/
theorem Settles.spared {t t' : Tables} {issuer : String} {tokens : TokenSet} {identity : Identity}
    {e : AccountError} (h : Settles t issuer tokens identity (.error e) t') :
    (∃ cause, e = .storage cause) ∧ t' = t := by
  cases h with
  | failed cause => exact ⟨⟨cause, rfl⟩, rfl⟩

variable {issuer : String} {tokens : TokenSet} {identity : Identity}

theorem gives_createUser_settles (now : Time.Instant) :
    b.Gives (createUser issuer tokens identity now) fun r b' =>
      Settles b.tables issuer tokens identity r b'.tables := by
  unfold createUser
  refine gives_spares_bind rfl fun id b₁ _ same => ?_
  rw [← same]
  refine Gives.map ((gives_inTransaction_commits fun _ => gives_insertBoth_rows _ _).mono ?_)
  intro r b₂ commits
  generalize b₂.tables = t at commits
  cases commits with
  | committed added => exact .created id now added
  | spared e => exact .failed e

theorem gives_linkProvider_settles {user : User} (now : Time.Instant)
    (known : b.tables.userByEmail? identity.email = some user) :
    b.Gives (linkProvider user issuer tokens identity now) fun r b' =>
      Settles b.tables issuer tokens identity r b'.tables := by
  unfold linkProvider
  refine Gives.map ((gives_inTransaction_commits fun _ => gives_insertOne_rows _).mono ?_)
  intro r b₁ commits
  generalize b₁.tables = t at commits
  cases commits with
  | committed added =>
    rw [Tables.apply_link] at added
    exact .linked now known added
  | spared e => exact .failed e

theorem gives_refreshLink_settles {user : User} {link : Link} (now : Time.Instant)
    (known : b.tables.userByEmail? identity.email = some user)
    (held : b.tables.link? user.id issuer = some link) :
    b.Gives (refreshLink user link tokens identity now) fun r b' =>
      Settles b.tables issuer tokens identity r b'.tables := by
  have stores (b₁ : Backend) (same : b₁.tables = b.tables) :
      b₁.Gives (finished user (link.refresh tokens now) .refreshedLink <$>
        call (.updateLink (link.refresh tokens now))) fun r b' =>
          Settles b.tables issuer tokens identity r b'.tables := by
    refine Gives.map (gives_onAccounts rfl fun r b₂ ha => ?_)
    cases r with
    | error e =>
      rw [← same, ← tables_of_refused_updateLink ha]
      exact .failed e
    | ok _ => exact .refreshed now known held (same ▸ updateLink_of_answer ha)
  unfold refreshLink
  split
  · exact gives_spares_bind rfl fun _ b₁ _ same => stores b₁ same
  · exact stores b rfl

theorem gives_resolve_settles :
    b.Gives (resolve issuer tokens identity) fun r b' =>
      Settles b.tables issuer tokens identity r b'.tables := by
  unfold resolve
  refine gives_spares_bind rfl fun now b₁ _ same => ?_
  rw [← same]
  refine gives_spares_bind rfl fun user b₂ looked same => ?_
  split
  · rw [← same]
    exact gives_createUser_settles now
  · rw [← same]
    exact gives_pure (.failed _)
  · next user =>
    have known := userByEmail?_of_answer looked
    rw [← same] at known ⊢
    refine gives_spares_bind rfl fun link b₃ asked same => ?_
    split
    · rw [← same] at known ⊢
      exact gives_linkProvider_settles now known
    · rw [← same]
      exact gives_pure (.failed _)
    · next link =>
      have held := link?_of_answer asked
      rw [← same] at known held ⊢
      exact gives_refreshLink_settles now known held

/-- A login comes to its end, in one of the ways that there are. -/
theorem gives_onboard_settles (b : Backend) (issuer : String) (tokens : TokenSet)
    (identity : Identity) : b.Gives (onboard issuer tokens identity) fun r b' =>
      Settles b.tables issuer tokens identity r b'.tables := by
  unfold onboard
  refine Gives.bind (gives_resolve_settles.mono fun r b₁ settles => ?_)
  split
  · -- After a conflict the tables are as before, and so they are for the second look.
    rw [← settles.spared.2]
    refine gives_spares_bind rfl fun _ b₂ _ same => ?_
    rw [← same]
    exact gives_resolve_settles
  · exact gives_pure settles

end Account

end FederatedLogin
