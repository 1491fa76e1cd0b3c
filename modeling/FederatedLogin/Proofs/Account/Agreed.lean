import FederatedLogin.Account.Onboarding
import FederatedLogin.Proofs.Account.Tables

/-!
# Logins of one person

In a `Race`, any number of logins carry one address. `Race.Agreed` is the invariant of the tables
while they run: at most one user is added, who has the address; the links with which the logins are
concerned belong to the user with the address; and all other rows are those of before. A login may
store tokens of a link of that user, and commit units of work that say no more than a login has to
say (`Race.Adds`). Both keep the invariant (`Agreed.updateLink`, `Agreed.apply`), and both let the
tables grow only in ways that no other login minds (`Race.Grows`).
-/

namespace FederatedLogin

/-- A login with an identity provider. -/
structure Login where
  issuer : String
  tokens : TokenSet
  identity : Identity
  deriving DecidableEq, Inhabited

/-- The program of a login. -/
def Login.serve (l : Login) : Service (Except AccountError Onboarded) :=
  Account.onboard l.issuer l.tokens l.identity

/-- The user with the identifier has the address. -/
def Tables.Holds (t : Tables) (email : String) (id : Uuid) : Prop :=
  ∃ u ∈ t.users, u.email = email ∧ u.id = id

/-- Logins that carry one address, and the tables before them. The providers of the logins are all
the same or all different, and the persons whom they name are not linked to other users. -/
structure Race where
  before : Tables
  email : String
  logins : List Login
  sound : before.Sound
  oneEmail : ∀ l ∈ logins, l.identity.email = email
  alike : (∀ l ∈ logins, ∀ m ∈ logins, l.issuer = m.issuer) ∨
    logins.Pairwise fun l m => l.issuer ≠ m.issuer
  own : ∀ l ∈ logins, ∀ m ∈ before.links, m.issuer = l.issuer →
    m.externalId = l.identity.subject → before.Holds email m.userId

namespace Race

variable {r : Race} {l : Login} {t t' : Tables} {w : UnitOfWork}

/-- No two logins are with the same provider. -/
def Apart (r : Race) : Prop := r.logins.Pairwise fun l m => l.issuer ≠ m.issuer

/-- The link is not one of the user for the provider of a login. -/
def other (r : Race) (id : Uuid) (m : Link) : Bool :=
  !(m.userId = id && r.logins.any fun l => l.issuer = m.issuer)

theorem other_eq_false {m : Link} (hl : l ∈ r.logins) (hm : m.issuer = l.issuer) :
    r.other m.userId m = false := by
  have known : r.logins.any (fun l => l.issuer = m.issuer) = true :=
    List.any_eq_true.2 ⟨l, hl, by simp [hm]⟩
  simp [other, known]

/-- What holds of the tables while the logins run. -/
structure Agreed (r : Race) (t : Tables) : Prop where
  sound : t.Sound
  /-- One user may have been added. -/
  users : t.users = r.before.users ∨
    ¬ r.before.HasEmail r.email ∧ ∃ u, u.email = r.email ∧ t.users = r.before.users ++ [u]
  own : ∀ l ∈ r.logins, ∀ m ∈ t.links, m.issuer = l.issuer →
    m.externalId = l.identity.subject → t.Holds r.email m.userId
  /-- A user who was added has a link for the provider of a login. -/
  created : ∀ u ∈ t.users, u.email = r.email →
    u ∈ r.before.users ∨ ∃ l ∈ r.logins, t.HasLink u.id l.issuer
  others : ∀ id, t.Holds r.email id →
    t.links.filter (r.other id) = r.before.links.filter (r.other id)
  untouched : ¬ t.HasEmail r.email → t.links = r.before.links

theorem agreed_before (r : Race) : r.Agreed r.before :=
  ⟨r.sound, .inl rfl, r.own, fun _ hu _ => .inl hu, fun _ _ => rfl, fun _ => rfl⟩

/-- There is one user with the address at most. -/
theorem Agreed.holder_unique (h : r.Agreed t) {id id' : Uuid} (hid : t.Holds r.email id)
    (hid' : t.Holds r.email id') : id = id' := by
  obtain ⟨u, hu, e, rfl⟩ := hid
  obtain ⟨v, hv, e', rfl⟩ := hid'
  rw [h.sound.user_unique hu hv (e.trans e'.symm)]

theorem Agreed.users_subset (h : r.Agreed t) {u : User} (hu : u ∈ r.before.users) :
    u ∈ t.users := by
  rcases h.users with e | ⟨-, v, -, e⟩
  · rwa [e]
  · rw [e]
    exact List.mem_append_left _ hu

/-! ## Storing tokens -/

/-- A change of rows that a filter drops before and after does not show. -/
theorem filter_map_of_keeps {ρ : Type} {q : ρ → Bool} {f : ρ → ρ} {rows : List ρ}
    (same : ∀ m ∈ rows, q (f m) = q m) (keep : ∀ m ∈ rows, q m = true → f m = m) :
    (rows.map f).filter q = rows.filter q := by
  induction rows with
  | nil => rfl
  | cons m rows ih =>
    have rest := ih (fun n hn => same n (List.mem_cons_of_mem m hn))
      fun n hn => keep n (List.mem_cons_of_mem m hn)
    rw [List.map_cons, List.filter_cons, List.filter_cons, same m List.mem_cons_self, rest]
    by_cases hm : q m = true
    · rw [if_pos hm, if_pos hm, keep m List.mem_cons_self hm]
    · rw [if_neg hm, if_neg hm]

theorem exists_binding (h : t'.links.map Link.binding = t.links.map Link.binding) {m : Link}
    (hm : m ∈ t.links) : ∃ m' ∈ t'.links, m'.binding = m.binding := by
  have hb : m.binding ∈ t'.links.map Link.binding := h ▸ List.mem_map_of_mem hm
  exact List.mem_map.1 hb

/-- Storing tokens of a link of the user with the address keeps the tables agreed. -/
theorem Agreed.updateLink (h : r.Agreed t) (hl : l ∈ r.logins) {m : Link}
    (hm : m.issuer = l.issuer) (holds : t.Holds r.email m.userId)
    (ht : t.updateLink m = .ok t') : r.Agreed t' := by
  obtain ⟨hu, hb⟩ := Tables.bindings_of_updateLink ht
  -- The users stay, and every link binds what one bound before.
  have holds_iff (id : Uuid) : t'.Holds r.email id ↔ t.Holds r.email id := by
    unfold Tables.Holds
    rw [hu]
  refine ⟨h.sound.updateLink ht, hu ▸ h.users, ?_, ?_, ?_, ?_⟩
  · intro k hk n hn hissuer hperson
    obtain ⟨n₀, hn₀, e⟩ := exists_binding hb.symm hn
    obtain ⟨eid, eissuer, eperson⟩ : n₀.userId = n.userId ∧ n₀.issuer = n.issuer ∧
      n₀.externalId = n.externalId := by simpa [Link.binding] using e
    rw [holds_iff, ← eid]
    exact h.own k hk n₀ hn₀ (eissuer.trans hissuer) (eperson.trans hperson)
  · intro u hu' e
    refine (h.created u (hu ▸ hu') e).imp_right ?_
    rintro ⟨k, hk, n, hn, howner, hissuer⟩
    obtain ⟨n', hn', e'⟩ := exists_binding hb hn
    obtain ⟨eid, eissuer, -⟩ : n'.userId = n.userId ∧ n'.issuer = n.issuer ∧ _ := by
      simpa [Link.binding] using e'
    exact ⟨k, hk, n', hn', eid.trans howner, eissuer.trans hissuer⟩
  · intro id hid
    rw [← h.others id ((holds_iff id).1 hid)]
    obtain rfl := h.holder_unique holds ((holds_iff id).1 hid)
    unfold Tables.updateLink at ht
    split at ht
    · cases ht
    · cases ht
      refine filter_map_of_keeps (fun n _ => ?_) fun n _ hn => ?_
      · split
        · rfl
        · rfl
      · -- The rows that change are rows of the user for the provider of the login.
        refine if_neg fun ⟨e, e'⟩ => ?_
        rw [← e, other_eq_false hl (e'.trans hm)] at hn
        cases hn
  · intro none
    obtain ⟨u, hu', e, -⟩ := holds
    exact absurd ⟨u, hu ▸ hu', e⟩ none

/-! ## Adding rows -/

/-- The unit of work holds what a login may add: a link of the user with the address, or such a user
and a link. -/
inductive Adds (r : Race) (l : Login) (t : Tables) (w : UnitOfWork) : Prop
  | link {m : Link} : w.users = [] → w.links = [m] → m.issuer = l.issuer →
      t.Holds r.email m.userId → Adds r l t w
  | both {u : User} {m : Link} : w.users = [u] → w.links = [m] → m.issuer = l.issuer →
      u.email = r.email → m.userId = u.id → Adds r l t w

/-- What a login may add keeps the tables agreed. -/
theorem Agreed.apply (h : r.Agreed t) (hl : l ∈ r.logins) (adds : r.Adds l t w)
    (ht : w.apply t = .ok t') : r.Agreed t' := by
  obtain ⟨hu, hls⟩ := Tables.rows_of_apply ht
  have sound := h.sound.apply ht
  -- Rows are only added, so what was there is still there.
  have grown {id : Uuid} (hid : t.Holds r.email id) : t'.Holds r.email id := by
    obtain ⟨u, hu', e, e'⟩ := hid
    exact ⟨u, by rw [hu]; exact List.mem_append_left _ hu', e, e'⟩
  have linked {id : Uuid} {issuer : String} (hid : t.HasLink id issuer) :
      t'.HasLink id issuer := by
    obtain ⟨m, hm, e⟩ := hid
    exact ⟨m, by rw [hls]; exact List.mem_append_left _ hm, e⟩
  cases adds with
  | @link m noUser oneLink hissuer holds =>
    rw [noUser, List.append_nil] at hu
    rw [oneLink] at hls
    -- No user is added: who has the address now had it before.
    have shrunk {id : Uuid} (hid : t'.Holds r.email id) : t.Holds r.email id := by
      unfold Tables.Holds at hid
      rwa [hu] at hid
    refine ⟨sound, hu ▸ h.users, ?_, ?_, ?_, ?_⟩
    · intro k hk n hn hi hp
      rw [hls] at hn
      rcases List.mem_append.1 hn with hn | hn
      · exact grown (h.own k hk n hn hi hp)
      · rw [List.mem_singleton.1 hn]
        exact grown holds
    · intro u hu' e
      refine (h.created u (hu ▸ hu') e).imp_right ?_
      rintro ⟨k, hk, hkl⟩
      exact ⟨k, hk, linked hkl⟩
    · intro id hid
      obtain rfl := h.holder_unique holds (shrunk hid)
      rw [hls, List.filter_append, h.others m.userId holds,
        List.filter_cons_of_neg (by simp [other_eq_false hl hissuer])]
      exact List.append_nil _
    · intro none
      obtain ⟨u, hu', e, -⟩ := grown holds
      exact absurd ⟨u, hu', e⟩ none
  | @both u m oneUser oneLink hissuer he howner =>
    rw [oneUser] at hu
    rw [oneLink] at hls
    -- The address is new, since the tables with the user in them are sound.
    have new : ¬ t.HasEmail r.email := by
      rintro ⟨v, hv, e⟩
      have distinct := sound.distinctEmails
      rw [hu] at distinct
      exact (List.pairwise_append.1 distinct).2.2 v hv u List.mem_cons_self (e.trans he.symm)
    have same : t.users = r.before.users := by
      refine h.users.resolve_right ?_
      rintro ⟨-, v, e, hv⟩
      exact new ⟨v, by simp [hv], e⟩
    have holds : t'.Holds r.email u.id := ⟨u, by simp [hu], he, rfl⟩
    have only {id : Uuid} (hid : t'.Holds r.email id) : id = u.id := by
      obtain ⟨v, hv, e, rfl⟩ := hid
      rw [sound.user_unique hv (by simp [hu]) (e.trans he.symm)]
    refine ⟨sound, .inr ⟨?_, u, he, ?_⟩, ?_, ?_, ?_, ?_⟩
    · rintro ⟨v, hv, e⟩
      exact new ⟨v, same ▸ hv, e⟩
    · rw [hu, same]
    · intro k hk n hn hi hp
      rw [hls] at hn
      rcases List.mem_append.1 hn with hn | hn
      · exact grown (h.own k hk n hn hi hp)
      · rw [List.mem_singleton.1 hn, howner]
        exact holds
    · intro v hv e
      rw [sound.user_unique hv (by simp [hu]) (e.trans he.symm)]
      exact .inr ⟨l, hl, m, by simp [hls], howner, hissuer⟩
    · intro id hid
      obtain rfl := only hid
      rw [hls, List.filter_append, h.untouched new, ← howner,
        List.filter_cons_of_neg (by simp [other_eq_false hl hissuer])]
      exact List.append_nil _
    · intro none
      exact absurd ⟨u, by simp [hu], he⟩ none

/-! ## What the other logins see -/

/-- The tables grow as a login can expect it of the others. Rows stay, the users who are added have
none of its identifiers, and if no other login is with the same provider, there are no new links for
it. -/
structure Grows (r : Race) (l : Login) (ids : List Uuid) (t t' : Tables) : Prop where
  users : ∀ u ∈ t.users, u ∈ t'.users
  strangers : ∀ id ∈ ids, t'.HasUser id → t.HasUser id
  links : ∀ m ∈ t.links, ∃ m' ∈ t'.links, m'.binding = m.binding
  alone : r.Apart → ∀ m' ∈ t'.links, m'.issuer = l.issuer → ∃ m ∈ t.links, m.binding = m'.binding

variable {ids : List Uuid}

theorem Grows.refl (r : Race) (l : Login) (ids : List Uuid) (t : Tables) : r.Grows l ids t t :=
  ⟨fun _ h => h, fun _ _ h => h, fun m h => ⟨m, h, rfl⟩, fun _ m h _ => ⟨m, h, rfl⟩⟩

theorem Grows.trans {t₁ t₂ t₃ : Tables} (h : r.Grows l ids t₁ t₂) (h' : r.Grows l ids t₂ t₃) :
    r.Grows l ids t₁ t₃ := by
  refine ⟨fun u hu => h'.users u (h.users u hu),
    fun id hid hu => h.strangers id hid (h'.strangers id hid hu), ?_, ?_⟩
  · intro m hm
    obtain ⟨m₂, hm₂, e⟩ := h.links m hm
    obtain ⟨m₃, hm₃, e'⟩ := h'.links m₂ hm₂
    exact ⟨m₃, hm₃, e'.trans e⟩
  · intro apart m hm hissuer
    obtain ⟨m₂, hm₂, e⟩ := h'.alone apart m hm hissuer
    have hissuer₂ : m₂.issuer = l.issuer := by
      rw [← hissuer]
      exact congrArg (·.2.1) e
    obtain ⟨m₁, hm₁, e'⟩ := h.alone apart m₂ hm₂ hissuer₂
    exact ⟨m₁, hm₁, e'.trans e⟩

theorem Grows.hasLink (h : r.Grows l ids t t') {id : Uuid} {issuer : String}
    (hl : t.HasLink id issuer) : t'.HasLink id issuer := by
  obtain ⟨m, hm, rfl, rfl⟩ := hl
  obtain ⟨m', hm', e⟩ := h.links m hm
  exact ⟨m', hm', congrArg (·.1) e, congrArg (·.2.1) e⟩

/-- No other login minds that tokens are stored. -/
theorem grows_of_updateLink {m : Link} (ht : t.updateLink m = .ok t') : r.Grows l ids t t' := by
  obtain ⟨hu, hb⟩ := Tables.bindings_of_updateLink ht
  refine ⟨fun u h => hu ▸ h, ?_, fun n hn => exists_binding hb hn,
    fun _ n hn _ => exists_binding hb.symm hn⟩
  rintro id - ⟨u, hu', e⟩
  exact ⟨u, hu ▸ hu', e⟩

/-- No other login minds what a login may add. -/
theorem grows_of_apply {k : Login} (adds : r.Adds k t w) (ht : w.apply t = .ok t')
    (strange : ∀ u ∈ w.users, u.id ∉ ids) (apart : r.Apart → k.issuer ≠ l.issuer) :
    r.Grows l ids t t' := by
  obtain ⟨hu, hls⟩ := Tables.rows_of_apply ht
  -- All links of the unit of work are for the provider of the login that adds them.
  have issuers : ∀ m ∈ w.links, m.issuer = k.issuer := by
    intro n hn
    cases adds with
    | link _ oneLink hissuer _ =>
      rw [oneLink] at hn
      rw [List.mem_singleton.1 hn, hissuer]
    | both _ oneLink hissuer _ _ =>
      rw [oneLink] at hn
      rw [List.mem_singleton.1 hn, hissuer]
  refine ⟨?_, ?_, ?_, ?_⟩
  · intro u h
    rw [hu]
    exact List.mem_append_left _ h
  · rintro id hid ⟨u, h, rfl⟩
    rw [hu] at h
    rcases List.mem_append.1 h with h | h
    · exact ⟨u, h, rfl⟩
    · exact absurd hid (strange u h)
  · intro m hm
    exact ⟨m, by rw [hls]; exact List.mem_append_left _ hm, rfl⟩
  · intro ha m hm hissuer
    rw [hls] at hm
    rcases List.mem_append.1 hm with hm | hm
    · exact ⟨m, hm, rfl⟩
    · exact absurd ((issuers m hm).symm.trans hissuer) (apart ha)

end Race

end FederatedLogin
