import FederatedLogin.Proofs.Account.Agreed
import FederatedLogin.Proofs.Backend.Pool

/-!
# Racing logins

Logins of one person take turns, one call at a time. A login may find that another one was faster:
then a constraint refuses what it wants to add, and it looks at the tables again. By then the user
with the address is stored, and so is the link that the login wants, unless no other login is with
its provider (`Race.Settled`). From there on nothing can refuse it, so that one second look is
always enough (`keeps_resolve`, `keeps_onboard`).
-/

namespace FederatedLogin

/-- The identifier that was made for a user. -/
def Answered.userId? : Answered → Option Uuid
  | ⟨.newUserId, id⟩ => some id
  | _ => none

/-- The identifiers that were made for users on behalf of a task. -/
def Task.userIds {ρ α : Type} (t : Task ρ α) : List Uuid := t.past.filterMap Answered.userId?

namespace Race

open Backend

variable {r : Race} {l : Login} {α : Type}

/-- What a login knows: the tables, its unit of work, and the identifiers that were made for it. -/
structure View (r : Race) where
  tables : Tables
  work : UnitOfWork
  ids : List Uuid
  agreed : r.Agreed tables

variable {s s' s₁ s₂ : r.View}

/-- The second view comes after the first one, and the login has added nothing since. -/
structure Follows (l : Login) (s s' : r.View) : Prop where
  ids : s'.ids = s.ids
  grows : r.Grows l s.ids s.tables s'.tables

theorem Follows.refl (l : Login) (s : r.View) : Follows l s s := ⟨rfl, .refl r l s.ids s.tables⟩

theorem Follows.trans (h : Follows l s s₁) (h' : Follows l s₁ s₂) : Follows l s s₂ :=
  ⟨h'.ids.trans h.ids, h.grows.trans (h.ids ▸ h'.grows)⟩

/-- The tables are the same, and no identifier was made. -/
theorem follows_of_eq (ht : s'.tables = s.tables) (hids : s'.ids = s.ids ++ []) :
    Follows l s s' :=
  ⟨hids.trans (List.append_nil _), ht ▸ .refl r l s.ids s.tables⟩

/-- What a login and the others promise each other. The login only adds what it may add, and the
tables grow as it can expect. -/
def protocol (r : Race) (l : Login) : Protocol Call Call.Answer r.View where
  drifts s s' := s'.work = s.work ∧ Follows l s s'
  permits s c := match c with
    | .updateLink m => m.issuer = l.issuer ∧ s.tables.Holds r.email m.userId
    | .commit => r.Adds l s.tables s.work ∧ ∀ u ∈ s.work.users, u.id ∈ s.ids
    | c => onAccounts c = true
  answers s c a s' := Effect s.tables s.work c a s'.tables s'.work ∧
    s'.ids = s.ids ++ (Answered.userId? ⟨c, a⟩).toList ∧
    ∀ id, Answered.userId? ⟨c, a⟩ = some id → ¬ s.tables.HasUser id
  drifts_refl s := ⟨rfl, .refl l s⟩
  drifts_trans h h' := ⟨h'.1.trans h.1, h.2.trans h'.2⟩

variable {post : α → r.View → Prop}

/-! ## Calls -/

/-- The rule for a call that changes nothing and tells something about the tables. -/
theorem keeps_read {c : Call} {f : c.Answer → Service α} (tells : Tables → c.Answer → Prop)
    (permitted : ∀ s : r.View, (r.protocol l).permits s c)
    (reads : ∀ t w a t' w', Effect t w c a t' w' → t' = t ∧ tells t a)
    (unnamed : ∀ a, Answered.userId? ⟨c, a⟩ = none)
    (h : ∀ a s', tells s'.tables a → Follows l s s' → (f a).Keeps (r.protocol l) post s') :
    (call c >>= f).Keeps (r.protocol l) post s := by
  refine Program.keeps_ask_bind fun s₁ drift => ⟨permitted s₁, ?_⟩
  rintro a s₂ ⟨effect, same, -⟩
  obtain ⟨ht, told⟩ := reads _ _ _ _ _ effect
  rw [unnamed] at same
  rw [← ht] at told
  exact h a s₂ told (drift.2.trans (follows_of_eq ht same))

theorem keeps_now {f : Time.Instant → Service α}
    (h : ∀ now s', Follows l s s' → (f now).Keeps (r.protocol l) post s') :
    (call .now >>= f).Keeps (r.protocol l) post s := by
  refine keeps_read (fun _ _ => True) (fun _ => rfl) ?_ (fun _ => rfl) fun now s' _ => h now s'
  rintro _ _ _ _ _ ⟨⟩
  exact ⟨rfl, trivial⟩

theorem keeps_warn {f : Unit → Service α} {text : String}
    (h : ∀ s', Follows l s s' → (f ()).Keeps (r.protocol l) post s') :
    (warn text >>= f).Keeps (r.protocol l) post s := by
  refine keeps_read (fun _ _ => True) (fun _ => rfl) ?_ (fun _ => rfl) fun _ s' _ => h s'
  rintro _ _ _ _ _ ⟨⟩
  exact ⟨rfl, trivial⟩

theorem keeps_userByEmail {f : Except StorageError User → Service α} {email : String}
    (h : ∀ s', Follows l s s' →
      (f (found (s'.tables.userByEmail? email))).Keeps (r.protocol l) post s') :
    (call (.userByEmail email) >>= f).Keeps (r.protocol l) post s := by
  refine keeps_read (fun t a => a = found (t.userByEmail? email)) (fun _ => rfl) ?_
    (fun _ => rfl) ?_
  · rintro _ _ _ _ _ ⟨⟩
    exact ⟨rfl, rfl⟩
  · rintro _ s' rfl follows
    exact h s' follows

theorem keeps_linkOf {f : Except StorageError Link → Service α} {id : Uuid} {issuer : String}
    (h : ∀ s', Follows l s s' →
      (f (found (s'.tables.link? id issuer))).Keeps (r.protocol l) post s') :
    (call (.linkOf id issuer) >>= f).Keeps (r.protocol l) post s := by
  refine keeps_read (fun t a => a = found (t.link? id issuer)) (fun _ => rfl) ?_ (fun _ => rfl) ?_
  · rintro _ _ _ _ _ ⟨⟩
    exact ⟨rfl, rfl⟩
  · rintro _ s' rfl follows
    exact h s' follows

/-- The new identifier is not one of a stored user. -/
theorem keeps_newUserId {f : Uuid → Service α}
    (h : ∀ id s₁ s', Follows l s s₁ → s'.tables = s₁.tables → s'.ids = s₁.ids ++ [id] →
      ¬ s'.tables.HasUser id → (f id).Keeps (r.protocol l) post s') :
    (call .newUserId >>= f).Keeps (r.protocol l) post s := by
  refine Program.keeps_ask_bind fun s₁ drift => ⟨rfl, ?_⟩
  rintro id ⟨t', w', ids', agreed'⟩ ⟨effect, more, fresh⟩
  cases effect
  exact h id s₁ _ drift.2 rfl more (fresh id rfl)

/-- Tokens can be stored where there is a link. -/
theorem keeps_updateLink {m : Link} {post : Except StorageError Unit → r.View → Prop}
    (hissuer : m.issuer = l.issuer)
    (holds : ∀ s', Follows l s s' → s'.tables.Holds r.email m.userId)
    (linked : ∀ s', Follows l s s' → s'.tables.HasLink m.userId m.issuer)
    (h : ∀ s', Follows l s s' → post (.ok ()) s') :
    (call (.updateLink m)).Keeps (r.protocol l) post s := by
  intro s₁ drift
  refine ⟨⟨hissuer, holds s₁ drift.2⟩, ?_⟩
  rintro _ ⟨t', w', ids', agreed'⟩ ⟨effect, same, -⟩
  cases effect with
  | updated stored =>
    intro s₂ drift₂
    have follows : Follows l s₁ ⟨t', s₁.work, ids', agreed'⟩ :=
      ⟨same.trans (List.append_nil _), grows_of_updateLink stored⟩
    exact h s₂ (drift.2.trans (follows.trans drift₂.2))
  | notUpdated refused =>
    -- The link is still there, since no other login removes links.
    unfold Tables.updateLink at refused
    cases found : s₁.tables.link? m.userId m.issuer with
    | none => exact absurd (linked s₁ drift.2) (Tables.link?_eq_none_iff.1 found)
    | some _ =>
      rw [found] at refused
      cases refused

/-! ## Transactions -/

/-- A transaction adds the rows that its work leaves behind to the tables of the moment of the
commit, or is refused by them. -/
theorem keeps_inTransaction {work : Service (Except StorageError Unit)} {w : UnitOfWork}
    {post : Except StorageError Unit → r.View → Prop} (notFinished : w.finished = false)
    (adding : ∀ s₁, s₁.work = {} → work.Keeps (r.protocol l)
      (fun res s₂ => res = .ok () ∧ s₂.work = w ∧ Follows l s₁ s₂) s₁)
    (adds : ∀ s₁, Follows l s s₁ → r.Adds l s₁.tables w ∧ ∀ u ∈ w.users, u.id ∈ s₁.ids)
    (stable : ∀ {res s₁ s₂}, post res s₁ → Follows l s₁ s₂ → post res s₂)
    (added : ∀ s₁ s₂, Follows l s s₁ → s₂.ids = s₁.ids →
      w.apply s₁.tables = .ok s₂.tables → post (.ok ()) s₂)
    (refused : ∀ s₁ e, Follows l s s₁ → w.apply s₁.tables = .error e → post (.error e) s₁) :
    (Account.inTransaction work).Keeps (r.protocol l) post s := by
  refine Program.keeps_ask_bind fun s₁ drift₁ => ⟨rfl, ?_⟩
  rintro _ ⟨t₂, w₂, ids₂, agreed₂⟩ ⟨effect, same₂, -⟩
  cases effect
  have follows₂ : Follows l s ⟨s₁.tables, {}, ids₂, agreed₂⟩ :=
    drift₁.2.trans (follows_of_eq rfl same₂)
  refine Program.Keeps.bind ((adding ⟨s₁.tables, {}, ids₂, agreed₂⟩ rfl).mono ?_)
  rintro _ s₃ ⟨rfl, hw, follows₃⟩
  refine Program.keeps_ask_bind fun s₄ drift₄ => ?_
  have follows : Follows l s s₄ := follows₂.trans (follows₃.trans drift₄.2)
  -- Others may have changed the tables by now, but not the unit of work.
  have hw₄ : s₄.work = w := drift₄.1.trans hw
  constructor
  · show r.Adds l s₄.tables s₄.work ∧ ∀ u ∈ s₄.work.users, u.id ∈ s₄.ids
    rw [hw₄]
    exact adds s₄ follows
  rintro _ ⟨t₅, w₅, ids₅, agreed₅⟩ ⟨effect, same₅, -⟩
  cases effect with
  | committed _ applied =>
    intro s₆ drift₆
    rw [hw₄] at applied
    exact stable (added s₄ _ follows (same₅.trans (List.append_nil _)) applied) drift₆.2
  | notCommitted _ failed =>
    intro s₆ drift₆
    rw [hw₄] at failed
    have follows₅ : Follows l s₄ ⟨s₄.tables, _, ids₅, agreed₅⟩ := follows_of_eq rfl same₅
    exact stable (refused s₄ _ follows failed) (follows₅.trans drift₆.2)
  | closed hf =>
    rw [hw₄, notFinished] at hf
    cases hf

theorem keeps_insertLink {link : Link} {w : UnitOfWork} (hw : s.work = w)
    (notFinished : w.finished = false) :
    (call (.insertLink link)).Keeps (r.protocol l) (fun res s' => res = .ok () ∧
      s'.work = { w with links := w.links ++ [link] } ∧ Follows l s s') s := by
  intro s₁ drift₁
  refine ⟨rfl, ?_⟩
  rintro _ ⟨t₂, w₂, ids₂, agreed₂⟩ ⟨effect, same₂, -⟩
  have hw₁ : s₁.work = w := drift₁.1.trans hw
  cases effect with
  | insertedLink inserted =>
    intro s₃ drift₃
    rw [hw₁] at inserted
    have follows₂ : Follows l s₁ ⟨s₁.tables, w₂, ids₂, agreed₂⟩ := follows_of_eq rfl same₂
    refine ⟨rfl, drift₃.1.trans (UnitOfWork.eq_of_insertLink inserted), ?_⟩
    exact drift₁.2.trans (follows₂.trans drift₃.2)
  | notInsertedLink failed =>
    rw [hw₁, UnitOfWork.insertLink_of_not_finished notFinished] at failed
    cases failed

theorem keeps_insertBoth {user : User} {link : Link} (empty : s.work = {}) :
    (Account.insertBoth user link).Keeps (r.protocol l) (fun res s' => res = .ok () ∧
      s'.work = { users := [user], links := [link] } ∧ Follows l s s') s := by
  refine Program.keeps_ask_bind fun s₁ drift₁ => ⟨rfl, ?_⟩
  rintro _ ⟨t₂, w₂, ids₂, agreed₂⟩ ⟨effect, same₂, -⟩
  have empty₁ : s₁.work = {} := drift₁.1.trans empty
  cases effect with
  | insertedUser inserted =>
    rw [empty₁] at inserted
    have hw := UnitOfWork.eq_of_insertUser inserted
    have follows₂ : Follows l s₁ ⟨s₁.tables, w₂, ids₂, agreed₂⟩ := follows_of_eq rfl same₂
    refine (keeps_insertLink (s := ⟨s₁.tables, w₂, ids₂, agreed₂⟩) hw rfl).mono ?_
    rintro res s₃ ⟨hres, hw₃, follows₃⟩
    exact ⟨hres, hw₃, drift₁.2.trans (follows₂.trans follows₃)⟩
  | notInsertedUser failed =>
    rw [empty₁, UnitOfWork.insertUser_of_not_finished rfl] at failed
    cases failed

/-! ## Looking at the tables -/

/-- None of the identifiers that were made for the login is in use. -/
def Unused (s : r.View) : Prop := ∀ id ∈ s.ids, ¬ s.tables.HasUser id

theorem Unused.follows (h : Unused s) (follows : Follows l s s') : Unused s' := by
  intro id hid hu
  rw [follows.ids] at hid
  exact h id hid (follows.grows.strangers id hid hu)

/-- The user with the address is stored, and so is the link for the provider, unless no other login
is with the provider. -/
def Settled (l : Login) (s : r.View) : Prop :=
  ∃ u ∈ s.tables.users, u.email = r.email ∧ (¬ r.Apart → s.tables.HasLink u.id l.issuer)

theorem Settled.follows (h : Settled l s) (follows : Follows l s s') : Settled l s' := by
  obtain ⟨u, hu, he, linked⟩ := h
  exact ⟨u, follows.grows.users u hu, he, fun ha => follows.grows.hasLink (linked ha)⟩

/-- The login succeeded: the user has the address and a link for the provider, and was created by
this login if the identifier is one that was made for it. -/
def Succeeded (l : Login) (res : Except AccountError Onboarded) (s : r.View) : Prop :=
  ∃ o, res = .ok o ∧ o.user ∈ s.tables.users ∧ o.user.email = r.email ∧
    s.tables.HasLink o.user.id l.issuer ∧ (o.outcome = .createdUser ↔ o.user.id ∈ s.ids)

theorem Succeeded.follows {res : Except AccountError Onboarded} (h : Succeeded l res s)
    (follows : Follows l s s') : Succeeded l res s' := by
  obtain ⟨o, ho, hu, he, linked, created⟩ := h
  exact ⟨o, ho, follows.grows.users _ hu, he, follows.grows.hasLink linked,
    by rw [follows.ids]; exact created⟩

/-- The login met a conflict, and next time it will not. -/
def WasLate (l : Login) (res : Except AccountError Onboarded) (s : r.View) : Prop :=
  (∃ constraint, res = .error (.storage (.conflict constraint))) ∧ Unused s ∧ Settled l s

theorem WasLate.follows {res : Except AccountError Onboarded} (h : WasLate l res s)
    (follows : Follows l s s') : WasLate l res s' :=
  ⟨h.1, h.2.1.follows follows, h.2.2.follows follows⟩

/-! ## Steps of a login -/

/-- Where no two providers differ, the link for the provider of one login is the one for the
provider of another. -/
theorem same_issuer (r : Race) (together : ¬ r.Apart) {k : Login} (hk : k ∈ r.logins)
    (hl : l ∈ r.logins) : k.issuer = l.issuer :=
  r.alike.resolve_right together k hk l hl

/-- A user with the address who was not there before comes with a link that all logins want, unless
they are with different providers. -/
theorem hasLink_of_created (hl : l ∈ r.logins) {v : User} (hv : v ∈ s'.tables.users)
    (he : v.email = r.email) (new : v ∉ r.before.users) (together : ¬ r.Apart) :
    s'.tables.HasLink v.id l.issuer := by
  obtain ⟨k, hk, linked⟩ := (s'.agreed.created v hv he).resolve_left new
  rwa [← same_issuer r together hk hl]

/-- A login that found no user with the address creates one, or is late. -/
theorem keeps_createUser (hl : l ∈ r.logins) (unused : Unused s)
    (unknown : ¬ s.tables.HasEmail r.email) (now : Time.Instant) :
    (Account.createUser l.issuer l.tokens l.identity now).Keeps (r.protocol l)
      (fun res s' => Succeeded l res s' ∨ WasLate l res s') s := by
  have email : l.identity.email = r.email := r.oneEmail l hl
  unfold Account.createUser
  refine keeps_newUserId fun id s₁ s₂ follows₁ ht hids fresh => ?_
  have hid : id ∈ s₂.ids := by simp [hids]
  refine Program.Keeps.map (keeps_inTransaction rfl (fun s₃ => keeps_insertBoth) ?_ ?_ ?_ ?_)
  · intro s₃ follows
    refine ⟨.both rfl rfl rfl email rfl, ?_⟩
    intro u hu
    rw [List.mem_singleton.1 hu, follows.ids]
    exact hid
  · exact fun h follows => h.imp (·.follows follows) (·.follows follows)
  · intro s₃ s₄ follows same applied
    obtain ⟨hu, hls⟩ := Tables.rows_of_apply applied
    have linked : s₄.tables.HasLink id l.issuer :=
      ⟨_, hls ▸ List.mem_append_right _ List.mem_cons_self, rfl, rfl⟩
    refine .inl ⟨_, rfl, by simp [hu], email, linked, ?_⟩
    rw [same, follows.ids]
    exact iff_of_true rfl hid
  · intro s₃ e follows failed
    have free : ¬ s₃.tables.HasUser id := fun hu => fresh (follows.grows.strangers id hid hu)
    -- Only the address can be what the tables mind: the person is not linked to anybody else.
    have known : s₃.tables.HasEmail r.email := by
      refine Classical.byContradiction fun new => ?_
      have stranger : ¬ s₃.tables.HasPerson l.issuer l.identity.subject := by
        rintro ⟨m, hm, hissuer, hperson⟩
        obtain ⟨u, hu, he, -⟩ := s₃.agreed.own l hl m hm hissuer hperson
        exact new ⟨u, hu, he⟩
      rw [← email] at new
      rw [Tables.apply_both_of_new s₃.agreed.sound rfl free new stranger] at failed
      cases failed
    have conflict : e = .conflict "users_email_key" := by
      rw [← email] at known
      rw [Tables.apply_both, Tables.addUser_of_hasEmail free known] at failed
      exact (Except.error.inj failed).symm
    refine .inr ⟨⟨_, by rw [conflict]; rfl⟩, ?_, ?_⟩
    · intro id' hid'
      rw [follows.ids, hids] at hid'
      rcases List.mem_append.1 hid' with hid' | hid'
      · have free' : ¬ s₂.tables.HasUser id' := ht ▸ unused.follows follows₁ id' hid'
        have mem : id' ∈ s₂.ids := by simp [hids, hid']
        exact fun hu => free' (follows.grows.strangers id' mem hu)
      · rwa [List.mem_singleton.1 hid']
    · obtain ⟨v, hv, he⟩ := known
      refine ⟨v, hv, he, hasLink_of_created hl hv he fun old => ?_⟩
      exact unknown ⟨v, s.agreed.users_subset old, he⟩

/-- A login that found no link of the user adds one, or is late. If no other login is with its
provider, it is not late. -/
theorem keeps_linkProvider (hl : l ∈ r.logins) (unused : Unused s) {user : User}
    (hu : user ∈ s.tables.users) (he : user.email = r.email)
    (none : ¬ s.tables.HasLink user.id l.issuer) (now : Time.Instant) :
    (Account.linkProvider user l.issuer l.tokens l.identity now).Keeps (r.protocol l)
      (fun res s' => Succeeded l res s' ∨ (¬ r.Apart ∧ WasLate l res s')) s := by
  unfold Account.linkProvider
  let link := Link.issued user.id l.issuer l.identity.subject l.tokens now
  refine Program.Keeps.map (keeps_inTransaction (w := { links := [link] }) rfl
    (fun s₁ empty => keeps_insertLink empty rfl) ?_ ?_ ?_ ?_)
  · intro s₁ follows
    exact ⟨.link rfl rfl rfl ⟨user, follows.grows.users user hu, he, rfl⟩, fun _ h => nomatch h⟩
  · exact fun h follows => h.imp (·.follows follows) (.imp_right (·.follows follows))
  · intro s₁ s₂ follows same applied
    obtain ⟨hus, hls⟩ := Tables.rows_of_apply applied
    have hu₁ := follows.grows.users user hu
    have linked : s₂.tables.HasLink user.id l.issuer :=
      ⟨_, hls ▸ List.mem_append_right _ List.mem_cons_self, rfl, rfl⟩
    refine .inl ⟨_, rfl, by simp [hus, hu₁], he, linked, ?_⟩
    refine iff_of_false nofun fun hid => ?_
    rw [same] at hid
    exact unused.follows follows user.id hid ⟨user, hu₁, rfl⟩
  · intro s₁ e follows failed
    have hu₁ := follows.grows.users user hu
    rw [Tables.apply_link] at failed
    -- The tables can only mind a link of the user: the person is not linked to anybody else.
    have linked : s₁.tables.HasLink user.id l.issuer := by
      refine Classical.byContradiction fun none₁ => ?_
      have stranger : ¬ s₁.tables.HasPerson l.issuer l.identity.subject := by
        rintro ⟨m, hm, hissuer, hperson⟩
        have owner := s₁.agreed.own l hl m hm hissuer hperson
        have same := s₁.agreed.holder_unique owner ⟨user, hu₁, he, rfl⟩
        exact none₁ ⟨m, hm, same, hissuer⟩
      rw [Tables.addLink_of_new ⟨user, hu₁, rfl⟩ none₁ stranger] at failed
      cases failed
    -- That link was not there a moment ago, so another login is with the same provider.
    have together : ¬ r.Apart := by
      intro apart
      obtain ⟨m, hm, howner, hissuer⟩ := linked
      obtain ⟨m₀, hm₀, e⟩ := follows.grows.alone apart m hm hissuer
      exact none ⟨m₀, hm₀, (congrArg (·.1) e).trans howner, (congrArg (·.2.1) e).trans hissuer⟩
    have conflict : e = .conflict "links_user_id_issuer_key" := by
      rw [Tables.addLink_of_hasLink ⟨user, hu₁, rfl⟩ linked] at failed
      exact (Except.error.inj failed).symm
    refine .inr ⟨together, ⟨_, by rw [conflict]; rfl⟩, unused.follows follows, ?_⟩
    exact ⟨user, hu₁, he, fun _ => linked⟩

/-- A login that found a link of the user for the provider refreshes it. -/
theorem keeps_refreshLink (unused : Unused s) {user : User} {link : Link}
    (hu : user ∈ s.tables.users) (he : user.email = r.email) (hlink : link ∈ s.tables.links)
    (howner : link.userId = user.id) (hissuer : link.issuer = l.issuer) (now : Time.Instant) :
    (Account.refreshLink user link l.tokens l.identity now).Keeps (r.protocol l)
      (Succeeded l) s := by
  have stored (s₁ : r.View) (follows₁ : Follows l s s₁) :
      (Account.finished user (link.refresh l.tokens now) .refreshedLink <$>
        call (.updateLink (link.refresh l.tokens now))).Keeps (r.protocol l)
        (Succeeded l) s₁ := by
    refine Program.Keeps.map (keeps_updateLink hissuer ?_ ?_ ?_)
    · intro s₂ follows₂
      exact ⟨user, (follows₁.trans follows₂).grows.users user hu, he, howner.symm⟩
    · intro s₂ follows₂
      exact (follows₁.trans follows₂).grows.hasLink ⟨link, hlink, rfl, rfl⟩
    · intro s₂ follows₂
      have follows := follows₁.trans follows₂
      have hu₂ := follows.grows.users user hu
      refine ⟨_, rfl, hu₂, he, follows.grows.hasLink ⟨link, hlink, howner, hissuer⟩, ?_⟩
      exact iff_of_false nofun fun hid => unused.follows follows user.id hid ⟨user, hu₂, rfl⟩
  unfold Account.refreshLink
  split
  · exact keeps_warn fun s₁ follows => stored s₁ follows
  · exact stored s (.refl l s)

/-- A look at the tables succeeds or comes too late. Once the tables are settled, it succeeds. -/
theorem keeps_resolve (hl : l ∈ r.logins) (unused : Unused s) :
    (Account.resolve l.issuer l.tokens l.identity).Keeps (r.protocol l)
      (fun res s' => Succeeded l res s' ∨ (¬ Settled l s ∧ WasLate l res s')) s := by
  unfold Account.resolve
  refine keeps_now fun now s₁ follows₁ => ?_
  refine keeps_userByEmail fun s₂ follows₂ => ?_
  have follows := follows₁.trans follows₂
  rw [r.oneEmail l hl]
  cases found : s₂.tables.userByEmail? r.email with
  | none =>
    have unknown := Tables.userByEmail?_eq_none_iff.1 found
    refine (keeps_createUser hl (unused.follows follows) unknown now).mono fun res s₃ h => ?_
    -- Settled tables hold the user with the address, who was not found.
    refine h.imp_right fun late => ⟨fun settled => ?_, late⟩
    obtain ⟨u, hu, he, -⟩ := settled.follows follows
    exact unknown ⟨u, hu, he⟩
  | some user =>
    obtain ⟨hu, he⟩ := Tables.userByEmail?_eq_some found
    refine keeps_linkOf fun s₃ follows₃ => ?_
    have follows' := follows.trans follows₃
    have hu₃ := follows₃.grows.users user hu
    cases linked : s₃.tables.link? user.id l.issuer with
    | none =>
      have none := Tables.link?_eq_none_iff.1 linked
      refine (keeps_linkProvider hl (unused.follows follows') hu₃ he none now).mono
        fun res s₄ h => ?_
      refine h.imp_right fun ⟨together, late⟩ => ⟨fun settled => ?_, late⟩
      obtain ⟨v, hv, he', hlink⟩ := settled.follows follows'
      rw [s₃.agreed.sound.user_unique hv hu₃ (he'.trans he.symm)] at hlink
      exact none (hlink together)
    | some link =>
      obtain ⟨hlink, howner, hissuer⟩ := Tables.link?_eq_some linked
      refine (keeps_refreshLink (unused.follows follows') hu₃ he hlink howner hissuer now).mono ?_
      exact fun res s₄ h => .inl h

/-- A login succeeds, whatever the other logins do. -/
theorem keeps_onboard (hl : l ∈ r.logins) (unused : Unused s) :
    l.serve.Keeps (r.protocol l) (Succeeded l) s := by
  unfold Login.serve Account.onboard
  refine Program.Keeps.bind ((keeps_resolve hl unused).mono ?_)
  rintro res s₁ (succeeded | ⟨-, ⟨constraint, rfl⟩, unused₁, settled⟩)
  · obtain ⟨o, rfl, h⟩ := succeeded
    intro s₂ drift
    exact Succeeded.follows ⟨o, rfl, h⟩ drift.2
  · -- The second look finds settled tables, so that it cannot come too late.
    refine keeps_warn fun s₂ follows => ?_
    refine (keeps_resolve hl (unused₁.follows follows)).mono ?_
    rintro res s₃ (succeeded | ⟨unsettled, -⟩)
    · exact succeeded
    · exact absurd (settled.follows follows) unsettled

end Race

end FederatedLogin
