import FederatedLogin.Account.Onboarding
import FederatedLogin.Proofs.Account.Tables
import FederatedLogin.Proofs.Backend.Alone

/-!
# A login without company

`Onboards` says what becomes of a login that nothing else disturbs. Which of its four cases is the
one depends on three questions about the tables: whether a user has the address, whether that user
has a link for the provider, and whether the person has a link with the provider. A login that runs
alone does what the relation says and nothing else (`onboard_alone`). Its second look finds what the
first one found, so that it changes nothing.
-/

namespace FederatedLogin

namespace Account

open Backend

variable {issuer : String} {tokens : TokenSet} {identity : Identity}

/-- The result of a login and the tables after it, from the tables before it. The instant is that of
the login, and the identifier is the one that a new user gets. -/
inductive Onboards (t : Tables) (issuer : String) (tokens : TokenSet) (identity : Identity)
    (now : Time.Instant) (id : Uuid) : Except AccountError Onboarded → Tables → Prop
  /-- The user has a link for the provider, which is refreshed. -/
  | refreshed {user : User} {link : Link} {before after : List Link} :
      user ∈ t.users → user.email = identity.email → t.links = before ++ link :: after →
      link.userId = user.id → link.issuer = issuer →
      Onboards t issuer tokens identity now id
        (.ok ⟨user, link.refresh tokens now, .refreshedLink⟩)
        { t with links := before ++ link.refresh tokens now :: after }
  /-- The user gets a link for the provider. -/
  | linked {user : User} :
      user ∈ t.users → user.email = identity.email → ¬ t.HasLink user.id issuer →
      ¬ t.HasPerson issuer identity.subject →
      Onboards t issuer tokens identity now id
        (.ok ⟨user, Link.issued user.id issuer identity.subject tokens now, .linkedProvider⟩)
        { t with links := t.links ++ [Link.issued user.id issuer identity.subject tokens now] }
  /-- A user and a link are added. -/
  | created :
      ¬ t.HasEmail identity.email → ¬ t.HasPerson issuer identity.subject →
      Onboards t issuer tokens identity now id
        (.ok ⟨User.ofIdentity id identity now,
          Link.issued id issuer identity.subject tokens now, .createdUser⟩)
        { users := t.users ++ [User.ofIdentity id identity now]
          links := t.links ++ [Link.issued id issuer identity.subject tokens now] }
  /-- The person has a link already, which is not one of the user with the address. -/
  | refused :
      (∀ user ∈ t.users, user.email = identity.email → ¬ t.HasLink user.id issuer) →
      t.HasPerson issuer identity.subject →
      Onboards t issuer tokens identity now id
        (.error (.storage (.conflict "links_issuer_external_id_key"))) t

/-! ## The cases exclude each other -/

/-- Storing a refreshed link changes its row to the refreshed link. -/
theorem updateLink_refresh {t : Tables} {link : Link} {before after : List Link}
    (sound : t.Sound) (rows : t.links = before ++ link :: after) (tokens : TokenSet)
    (now : Time.Instant) :
    t.updateLink (link.refresh tokens now)
      = .ok { t with links := before ++ link.refresh tokens now :: after } :=
  sound.updateLink_eq rows rfl rfl

/-- Sound tables settle which case is the one, and with it the result and the tables. -/
theorem Onboards.unique {t t₁ t₂ : Tables} {now : Time.Instant} {id : Uuid}
    {r₁ r₂ : Except AccountError Onboarded} (sound : t.Sound)
    (h₁ : Onboards t issuer tokens identity now id r₁ t₁)
    (h₂ : Onboards t issuer tokens identity now id r₂ t₂) : r₁ = r₂ ∧ t₁ = t₂ := by
  cases h₁ with
  | @refreshed user link before after hu he hl howner hissuer =>
    have mem : link ∈ t.links := by simp [hl]
    cases h₂ with
    | @refreshed user' link' before' after' hu' he' hl' howner' hissuer' =>
      have mem' : link' ∈ t.links := by simp [hl']
      obtain rfl : user = user' := sound.user_unique hu hu' (he.trans he'.symm)
      obtain rfl : link = link' :=
        sound.link_unique mem mem' (howner.trans howner'.symm) (hissuer.trans hissuer'.symm)
      -- Both are the tables after the tokens are stored, wherever the row stands.
      have stored := updateLink_refresh sound hl tokens now
      rw [updateLink_refresh sound hl'] at stored
      exact ⟨rfl, (Except.ok.inj stored).symm⟩
    | linked hu' he' none _ =>
      obtain rfl := sound.user_unique hu hu' (he.trans he'.symm)
      exact absurd ⟨link, mem, howner, hissuer⟩ none
    | created none _ => exact absurd ⟨user, hu, he⟩ none
    | refused none _ => exact absurd ⟨link, mem, howner, hissuer⟩ (none user hu he)
  | @linked user hu he none stranger =>
    cases h₂ with
    | refreshed hu' he' hl' howner' hissuer' =>
      obtain rfl := sound.user_unique hu hu' (he.trans he'.symm)
      exact absurd ⟨_, by simp [hl'], howner', hissuer'⟩ none
    | linked hu' he' _ _ =>
      obtain rfl := sound.user_unique hu hu' (he.trans he'.symm)
      exact ⟨rfl, rfl⟩
    | created unknown _ => exact absurd ⟨user, hu, he⟩ unknown
    | refused _ known => exact absurd known stranger
  | created unknown stranger =>
    cases h₂ with
    | refreshed hu' he' _ _ _ => exact absurd ⟨_, hu', he'⟩ unknown
    | linked hu' he' _ _ => exact absurd ⟨_, hu', he'⟩ unknown
    | created _ _ => exact ⟨rfl, rfl⟩
    | refused _ known => exact absurd known stranger
  | refused none known =>
    cases h₂ with
    | refreshed hu' he' hl' howner' hissuer' =>
      exact absurd ⟨_, by simp [hl'], howner', hissuer'⟩ (none _ hu' he')
    | linked _ _ _ stranger => exact absurd known stranger
    | created _ stranger => exact absurd known stranger
    | refused _ _ => exact ⟨rfl, rfl⟩

/-! ## Steps of a login -/

/-- A transaction adds the rows that its work leaves behind, or says why it cannot. -/
theorem gives_inTransaction {b : Backend} {work : Service (Except StorageError Unit)}
    {w : UnitOfWork} (quiet : b.Quiet) (notFinished : w.finished = false)
    (h : ∀ b₁ : Backend, b₁.Quiet → b₁.work = {} →
      b₁.Gives work fun r b₂ => r = .ok () ∧ b₁.Becomes b₁.tables w 0 b₂) :
    b.Gives (inTransaction work) fun r b' => (∃ w', b.Becomes b'.tables w' 0 b') ∧
      ((w.apply b.tables = .ok b'.tables ∧ r = .ok ()) ∨
        ∃ e, w.apply b.tables = .error e ∧ r = .error e ∧ b'.tables = b.tables) := by
  unfold inTransaction
  -- The inserts go to an empty unit of work, and only the commit looks at the tables.
  refine Gives.bind (gives_begin quiet fun b₁ began => ?_)
  refine Gives.bind ((h b₁ began.quiet began.work).mono ?_)
  rintro _ b₂ ⟨rfl, did⟩
  have hw : b₂.work = w := did.work
  have ht : b₂.tables = b.tables := did.tables.trans began.tables
  refine Gives.bind (gives_commit did.quiet (hw ▸ notFinished) ?_ ?_)
  · intro t b₃ added came
    obtain rfl := came.tables
    rw [hw, ht] at added
    exact gives_pure ⟨⟨_, began.trans (did.trans came)⟩, .inl ⟨added, rfl⟩⟩
  · intro e b₃ refused came
    have same : b₃.tables = b.tables := came.tables.trans ht
    rw [hw, ht] at refused
    rw [ht, ← same] at came
    exact gives_pure ⟨⟨_, began.trans (did.trans came)⟩, .inr ⟨e, refused, rfl, same⟩⟩

theorem gives_insertBoth {b : Backend} {user : User} {link : Link} (quiet : b.Quiet)
    (empty : b.work = {}) : b.Gives (insertBoth user link) fun r b' =>
      r = .ok () ∧ b.Becomes b.tables { users := [user], links := [link] } 0 b' := by
  unfold insertBoth
  refine Gives.bind (gives_insertUser quiet (by rw [empty]) fun b₁ did => ?_)
  refine gives_insertLink did.quiet (by rw [did.work, empty]) fun b₂ did' => ⟨rfl, ?_⟩
  have both := did.trans did'
  rw [did.work, did.tables, empty] at both
  exact both

theorem gives_insertOne {b : Backend} {link : Link} (quiet : b.Quiet) (empty : b.work = {}) :
    b.Gives (call (.insertLink link)) fun r b' =>
      r = .ok () ∧ b.Becomes b.tables { links := [link] } 0 b' := by
  refine gives_insertLink quiet (by rw [empty]) fun b₁ did => ⟨rfl, ?_⟩
  rw [empty] at did
  exact did

/-- A person with a new address gets a user and a link, unless the person has a link already. -/
theorem gives_createUser {b : Backend} {now : Time.Instant} (quiet : b.Quiet)
    (sound : b.tables.Sound) (fresh : ¬ b.tables.HasUser (b.userId b.users))
    (unknown : ¬ b.tables.HasEmail identity.email) :
    b.Gives (createUser issuer tokens identity now) fun r b' =>
      (∃ w, b.Becomes b'.tables w 1 b') ∧
      Onboards b.tables issuer tokens identity now (b.userId b.users) r b'.tables := by
  unfold createUser
  refine Gives.bind (gives_newUserId quiet fun b₁ made => ?_)
  refine Gives.map ((gives_inTransaction made.quiet rfl fun _ => gives_insertBoth).mono ?_)
  rintro r b₂ ⟨⟨w, came⟩, result⟩
  refine ⟨⟨w, made.trans came⟩, ?_⟩
  rw [made.tables] at result
  by_cases known : b.tables.HasPerson issuer identity.subject
  · rw [Tables.apply_both_of_hasPerson sound rfl fresh unknown known] at result
    obtain ⟨added, -⟩ | ⟨e, he, rfl, same⟩ := result
    · cases added
    · cases he
      rw [same]
      exact .refused (fun user hu he => absurd ⟨user, hu, he⟩ unknown) known
  · rw [Tables.apply_both_of_new sound rfl fresh unknown known] at result
    obtain ⟨added, rfl⟩ | ⟨e, he, -⟩ := result
    · rw [← Except.ok.inj added]
      exact .created unknown known
    · cases he

/-- A user without a link for the provider gets one, unless the person has a link already. -/
theorem gives_linkProvider {b : Backend} {user : User} {now : Time.Instant} (id : Uuid)
    (quiet : b.Quiet) (sound : b.tables.Sound) (hu : user ∈ b.tables.users)
    (he : user.email = identity.email) (none : ¬ b.tables.HasLink user.id issuer) :
    b.Gives (linkProvider user issuer tokens identity now) fun r b' =>
      (∃ w, b.Becomes b'.tables w 0 b') ∧
      Onboards b.tables issuer tokens identity now id r b'.tables := by
  unfold linkProvider
  refine Gives.map ((gives_inTransaction quiet rfl fun _ => gives_insertOne).mono ?_)
  rintro r b₁ ⟨came, result⟩
  refine ⟨came, ?_⟩
  rw [Tables.apply_link] at result
  by_cases known : b.tables.HasPerson issuer identity.subject
  · rw [Tables.addLink_of_hasPerson ⟨user, hu, rfl⟩ none known] at result
    obtain ⟨added, -⟩ | ⟨e, he', rfl, same⟩ := result
    · cases added
    · cases he'
      rw [same]
      refine .refused (fun user' hu' he' => ?_) known
      rwa [← sound.user_unique hu hu' (he.trans he'.symm)]
  · rw [Tables.addLink_of_new ⟨user, hu, rfl⟩ none known] at result
    obtain ⟨added, rfl⟩ | ⟨e, he', -⟩ := result
    · rw [← Except.ok.inj added]
      exact .linked hu he none known
    · cases he'

/-- The link that a user has for the provider is refreshed, whatever person the provider names. -/
theorem gives_refreshLink {b : Backend} {user : User} {link : Link} {now : Time.Instant} (id : Uuid)
    (quiet : b.Quiet) (sound : b.tables.Sound) (hu : user ∈ b.tables.users)
    (he : user.email = identity.email) (hl : link ∈ b.tables.links)
    (howner : link.userId = user.id) (hissuer : link.issuer = issuer) :
    b.Gives (refreshLink user link tokens identity now) fun r b' =>
      (∃ w, b.Becomes b'.tables w 0 b') ∧
      Onboards b.tables issuer tokens identity now id r b'.tables := by
  obtain ⟨before, after, rows⟩ := List.append_of_mem hl
  have stored := updateLink_refresh sound rows tokens now
  have finish (b₁ : Backend) (came : b.Becomes b.tables b.work 0 b₁) :
      b₁.Gives (finished user (link.refresh tokens now) .refreshedLink <$>
        call (.updateLink (link.refresh tokens now))) fun r b' =>
        (∃ w, b.Becomes b'.tables w 0 b') ∧
        Onboards b.tables issuer tokens identity now id r b'.tables := by
    rw [← came.tables] at stored
    refine Gives.map (gives_updateLink came.quiet stored fun b₂ did => ?_)
    have ht := did.tables
    rw [← ht] at did
    refine ⟨⟨_, came.trans did⟩, ?_⟩
    rw [ht, came.tables]
    exact .refreshed hu he rows howner hissuer
  unfold refreshLink
  split
  · exact Gives.bind (gives_warn quiet fun b₁ came => finish b₁ came)
  · exact finish b ⟨quiet, rfl, rfl, rfl, rfl⟩

/-- One look at the tables does what the relation says. -/
theorem gives_resolve {b : Backend} (quiet : b.Quiet) (sound : b.tables.Sound)
    (fresh : ¬ b.tables.HasUser (b.userId b.users)) :
    b.Gives (resolve issuer tokens identity) fun r b' =>
      (∃ w n, n < 2 ∧ b.Becomes b'.tables w n b') ∧
      Onboards b.tables issuer tokens identity b.clock (b.userId b.users) r b'.tables := by
  unfold resolve
  refine Gives.bind (gives_now quiet fun b₁ read => ?_)
  refine Gives.bind (gives_userByEmail read.quiet fun b₂ looked => ?_)
  have came := read.trans looked
  have ht : b₂.tables = b.tables := looked.tables.trans read.tables
  rw [read.tables]
  cases found : b.tables.userByEmail? identity.email with
  | none =>
    have unknown := Tables.userByEmail?_eq_none_iff.1 found
    have made : b₂.userId b₂.users = b.userId b.users := by rw [came.userId, came.users]; rfl
    rw [← ht] at sound fresh unknown
    rw [← made] at fresh
    have creates : b₂.Gives (createUser issuer tokens identity b.clock) _ :=
      gives_createUser came.quiet sound fresh unknown
    rw [ht, made] at creates
    refine creates.mono ?_
    rintro r b₃ ⟨⟨w, h⟩, result⟩
    exact ⟨⟨w, 1, by omega, came.trans h⟩, result⟩
  | some user =>
    obtain ⟨hu, he⟩ := Tables.userByEmail?_eq_some found
    refine Gives.bind (gives_linkOf came.quiet fun b₃ asked => ?_)
    have came₃ := came.trans asked
    have ht₃ : b₃.tables = b.tables := asked.tables.trans ht
    rw [ht]
    cases linked : b.tables.link? user.id issuer with
    | none =>
      have none := Tables.link?_eq_none_iff.1 linked
      rw [← ht₃] at sound hu none
      refine (gives_linkProvider (b.userId b.users) came₃.quiet sound hu he none).mono ?_
      rintro r b₄ ⟨⟨w, h⟩, result⟩
      rw [ht₃] at result
      exact ⟨⟨w, 0, by omega, came₃.trans h⟩, result⟩
    | some link =>
      obtain ⟨hl, howner, hissuer⟩ := Tables.link?_eq_some linked
      rw [← ht₃] at sound hu hl
      have refreshes : b₃.Gives (refreshLink user link tokens identity b.clock) _ :=
        gives_refreshLink (b.userId b.users) came₃.quiet sound hu he hl howner hissuer
      refine refreshes.mono ?_
      rintro r b₄ ⟨⟨w, h⟩, result⟩
      rw [ht₃] at result
      exact ⟨⟨w, 0, by omega, came₃.trans h⟩, result⟩

/-! ## The login -/

/-- A login that runs alone does what the relation says. When it looks a second time, nothing has
changed since the first time, so that it is refused again. -/
theorem gives_onboard {b : Backend} (quiet : b.Quiet) (sound : b.tables.Sound)
    (fresh : ∀ n < 2, ¬ b.tables.HasUser (b.userId (b.users + n))) (issuer : String)
    (tokens : TokenSet) (identity : Identity) :
    b.Gives (onboard issuer tokens identity) fun r b' =>
      Onboards b.tables issuer tokens identity b.clock (b.userId b.users) r b'.tables := by
  unfold onboard
  refine Gives.bind ((gives_resolve quiet sound (fresh 0 (by omega))).mono ?_)
  rintro r b₁ ⟨⟨w, n, hn, came⟩, result⟩
  generalize ht : b₁.tables = t at result
  cases result with
  | refreshed hu he rows howner hissuer =>
    exact gives_pure (ht ▸ .refreshed hu he rows howner hissuer)
  | linked hu he none stranger => exact gives_pure (ht ▸ .linked hu he none stranger)
  | created unknown stranger => exact gives_pure (ht ▸ .created unknown stranger)
  | refused none known =>
    -- The second look sees the same tables, and the relation leaves it the same result.
    refine Gives.bind (gives_warn came.quiet fun b₂ warned => ?_)
    have ht₂ : b₂.tables = b.tables := warned.tables.trans ht
    have fresh₂ : ¬ b.tables.HasUser (b₂.userId b₂.users) := by
      rw [warned.userId, warned.users, came.userId, came.users]
      exact fresh n hn
    have again : b₂.Gives (resolve issuer tokens identity) _ :=
      gives_resolve warned.quiet (ht₂ ▸ sound) (ht₂ ▸ fresh₂)
    refine again.mono ?_
    rintro r b₃ ⟨-, result⟩
    rw [ht₂] at result
    obtain ⟨rfl, same⟩ := result.unique sound (.refused none known)
    rw [same]
    exact .refused none known

/-- The tables after a login are sound again. -/
theorem Onboards.sound {t t' : Tables} {now : Time.Instant} {id : Uuid}
    {r : Except AccountError Onboarded} (h : Onboards t issuer tokens identity now id r t')
    (sound : t.Sound) (fresh : ¬ t.HasUser id) : t'.Sound := by
  cases h with
  | refreshed _ _ rows _ _ => exact sound.updateLink (updateLink_refresh sound rows tokens now)
  | linked hu _ none stranger =>
    exact sound.addLink (Tables.addLink_of_new ⟨_, hu, rfl⟩ none stranger)
  | created unknown stranger =>
    exact sound.apply (Tables.apply_both_of_new sound rfl fresh unknown stranger)
  | refused _ _ => exact sound

/-- The user and the link of a login are rows of the tables after it. -/
theorem Onboards.rows {t t' : Tables} {now : Time.Instant} {id : Uuid} {o : Onboarded}
    (h : Onboards t issuer tokens identity now id (.ok o) t') :
    o.user ∈ t'.users ∧ o.link ∈ t'.links := by
  cases h with
  | refreshed hu _ _ _ _ => exact ⟨hu, by simp⟩
  | linked hu _ _ _ => exact ⟨hu, by simp⟩
  | created _ _ => exact ⟨by simp, by simp⟩

/-- A login that runs alone on sound tables comes to its end. Its result and the tables after it are
those of the one case that applies, and what it returns is what is stored. -/
theorem onboard_alone (b : Backend) (quiet : b.Quiet) (sound : b.tables.Sound)
    (fresh : ∀ n < 2, ¬ b.tables.HasUser (b.userId (b.users + n))) (issuer : String)
    (tokens : TokenSet) (identity : Identity) :
    ∃ r b', b.run (onboard issuer tokens identity) = (.ok r, b') ∧
      Onboards b.tables issuer tokens identity b.clock (b.userId b.users) r b'.tables ∧
      (∀ r' t', Onboards b.tables issuer tokens identity b.clock (b.userId b.users) r' t' →
        r' = r ∧ t' = b'.tables) ∧
      ∀ o, r = .ok o → b'.tables.userById? o.user.id = some o.user ∧
        b'.tables.link? o.link.userId o.link.issuer = some o.link := by
  obtain ⟨r, b', run, result⟩ := gives_onboard quiet sound fresh issuer tokens identity
  have sound' : b'.tables.Sound := result.sound sound (fresh 0 (by omega))
  refine ⟨r, b', run, result, fun r' t' h => h.unique sound result, ?_⟩
  rintro o rfl
  obtain ⟨hu, hl⟩ := result.rows
  exact ⟨sound'.userById?_of_mem hu, sound'.link?_of_mem hl⟩

/-- Tables with one person, who is known to one provider. -/
def onePerson : Tables where
  users := [{ (default : User) with email := "a@x" }]
  links := [{ (default : Link) with issuer := "github", externalId := "s" }]

/-- The person logs in with another address, and is refused. -/
theorem onboard_alone_refused :
    let b : Backend := { (default : Backend) with tables := onePerson }
    let identity : Identity := ⟨"s", "", "b@x", true, none, none⟩
    b.Quiet ∧ b.tables.Sound ∧ (∀ n < 2, ¬ b.tables.HasUser (b.userId (b.users + n))) ∧
      ∃ b', b.run (onboard "github" default identity)
        = (.ok (.error (.storage (.conflict "links_issuer_external_id_key"))), b') ∧
        b'.tables = onePerson := by
  intro b identity
  have quiet : b.Quiet := fun _ h => nomatch h
  have sound : b.tables.Sound :=
    ⟨by decide, by decide, by decide, by decide, by decide⟩
  have fresh : ∀ n < 2, ¬ b.tables.HasUser (b.userId (b.users + n)) := by
    unfold Tables.HasUser
    decide +kernel
  refine ⟨quiet, sound, fresh, ?_⟩
  obtain ⟨r, b', run, -, only, -⟩ :=
    onboard_alone b quiet sound fresh "github" default identity
  have newAddress : ∀ user ∈ onePerson.users, user.email = "b@x" →
      ¬ onePerson.HasLink user.id "github" := by
    unfold Tables.HasLink
    decide +kernel
  have known : onePerson.HasPerson "github" "s" := by
    unfold Tables.HasPerson
    decide +kernel
  obtain ⟨rfl, same⟩ := only _ _ (.refused newAddress known)
  exact ⟨b', run, same.symm⟩

end Account

end FederatedLogin
