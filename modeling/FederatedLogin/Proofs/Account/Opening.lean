import FederatedLogin.Proofs.Account.Settling
import FederatedLogin.Provider.GitHub

/-!
# Which accounts a login opens

A login opens the account with the address that the provider reports, and nothing else counts:
neither whether the provider has verified the address, nor whether the person is the one who is
linked. A user who was there before has the address, and keeps the link for the provider, or gets
one, which only works if the person has no link with the provider (`Opens`, `onboard_opens`). An
address that is not verified may come from a public profile (`identity_of_public_address`), so that
a person can open an account whose owner they have never been linked to
(`unverified_address_opens`).
-/

namespace FederatedLogin

namespace Account

open Backend Provider

variable {t t' : Tables} {issuer : String} {tokens : TokenSet} {identity : Identity}
  {o : Onboarded}

/-- The login opened the account of a user who was there before. -/
structure Opens (t : Tables) (issuer : String) (identity : Identity) (o : Onboarded) (t' : Tables) :
    Prop where
  member : o.user ∈ t.users
  address : o.user.email = identity.email
  users : t'.users = t.users
  /-- The link for the provider is kept, whichever person it is about, or the person gets one. -/
  link : (∃ link ∈ t.links, link.userId = o.user.id ∧ link.issuer = issuer ∧
      o.link.binding = link.binding ∧ t'.links.map Link.binding = t.links.map Link.binding) ∨
    ¬ t.HasLink o.user.id issuer ∧ ¬ t.HasPerson issuer identity.subject ∧
      o.link.binding = (o.user.id, issuer, identity.subject) ∧ t'.links = t.links ++ [o.link]

/-- A login that has settled on a user who was there before has opened the account by its
address. -/
theorem Settles.opens (h : Settles t issuer tokens identity (.ok o) t')
    (existing : t.HasUser o.user.id) : Opens t issuer identity o t' := by
  cases h with
  | @refreshed user link _ now known held stored =>
    obtain ⟨member, address⟩ := Tables.userByEmail?_eq_some known
    obtain ⟨mem, owner, same⟩ := Tables.link?_eq_some held
    obtain ⟨users, bindings⟩ := Tables.bindings_of_updateLink stored
    exact ⟨member, address, users, .inl ⟨link, mem, owner, same, rfl, bindings⟩⟩
  | linked now known added =>
    obtain ⟨member, address⟩ := Tables.userByEmail?_eq_some known
    obtain ⟨-, none, stranger, rfl⟩ := Tables.addLink_eq_ok_iff.1 added
    exact ⟨member, address, rfl, .inr ⟨none, stranger, rfl, rfl⟩⟩
  | created id now added =>
    -- A new user has an identifier that no user had.
    rw [Tables.apply_both] at added
    obtain ⟨t₁, inserted, -⟩ := Tables.exists_of_bind_eq_ok added
    exact absurd existing (Tables.addUser_eq_ok_iff.1 inserted).1

/-- Where no address is verified, the public address of the profile is taken, and counts as not
verified. -/
theorem identity_of_public_address {p : GitHub.Profile} {addresses : List GitHub.Address}
    {email : String} (unverified : ∀ a ∈ addresses, a.verified = false)
    (told : p.email = some email) (nonempty : email ≠ "") :
    ∃ identity, GitHub.identity p addresses = .ok identity ∧ identity.email = email ∧
      identity.emailVerified = false := by
  have none : GitHub.verifiedAddress? addresses = none := by
    unfold GitHub.verifiedAddress?
    rw [List.find?_eq_none.2 fun a ha => by simp [unverified a ha],
      List.find?_eq_none.2 fun a ha => by simp [unverified a ha]]
    rfl
  have chosen : GitHub.chosenAddress? p addresses = some (email, false) := by
    unfold GitHub.chosenAddress?
    rw [none, told]
    simp [nonempty]
  unfold GitHub.identity
  rw [chosen]
  exact ⟨_, rfl, rfl, rfl⟩

/-- A login that runs alone comes to its end. If its user was there before, the account was opened
by the address that the provider reports, verified or not. -/
theorem onboard_opens (b : Backend) (issuer : String) (tokens : TokenSet) (identity : Identity) :
    ∃ result b', b.run (onboard issuer tokens identity) = (.ok result, b') ∧
      ∀ o, result = .ok o → b.tables.HasUser o.user.id →
        Opens b.tables issuer identity o b'.tables := by
  obtain ⟨result, b', run, settles⟩ := gives_onboard_settles b issuer tokens identity
  refine ⟨result, b', run, ?_⟩
  rintro o rfl existing
  exact settles.opens existing

/-- Someone whose address a provider has verified. -/
def verifiedPerson : Identity := ⟨"g-1", "Ada", "ada@example.org", true, none, none⟩

/-- A profile that shows the address in public. -/
def publicProfile : GitHub.Profile := ⟨7, "mallory", none, some "ada@example.org", none⟩

/-- The tokens of a login. -/
def someTokens : TokenSet := ⟨"access", none, default, default⟩

/-- A person who shows the address in public opens the account of the one who owns it. -/
theorem unverified_address_opens :
    ∃ owner b₁ identity o b₂,
      (default : Backend).run (onboard "google" someTokens verifiedPerson) = (.ok (.ok owner), b₁) ∧
      GitHub.identity publicProfile [] = .ok identity ∧ identity.emailVerified = false ∧
      b₁.run (onboard "github" someTokens identity) = (.ok (.ok o), b₂) ∧
      o.user = owner.user ∧ b₁.tables.HasUser o.user.id ∧
      ¬ ∃ link ∈ b₁.tables.links, link.userId = o.user.id ∧ link.issuer = "github" ∧
        link.externalId = identity.subject := by
  refine ⟨_, _, _, _, _, rfl, rfl, rfl, rfl, rfl, ?_, ?_⟩
  · exact ⟨_, List.mem_cons_self, rfl⟩
  · decide

end Account

end FederatedLogin
