import FederatedLogin.Account.Tables

/-!
# Rows and constraints

What the lookups of the tables find, when rows can be added, and which constraints survive which
change. A unit of work appends its rows (`rows_of_apply`); tokens are stored without touching what a
link binds (`Link.binding`); and removing a user removes all that refers to it. Each of the changes
keeps the tables sound (`Sound.apply`, `Sound.updateLink`, `Sound.removeUser`).
-/

namespace FederatedLogin

/-- What a link binds: a user, a provider, and the person that the provider knows. -/
def Link.binding (l : Link) : Uuid × String × String := (l.userId, l.issuer, l.externalId)

namespace Tables

/-- A user has the identifier. -/
def HasUser (t : Tables) (id : Uuid) : Prop := ∃ u ∈ t.users, u.id = id

/-- A user has the address. -/
def HasEmail (t : Tables) (email : String) : Prop := ∃ u ∈ t.users, u.email = email

/-- The user has a link for the provider. -/
def HasLink (t : Tables) (userId : Uuid) (issuer : String) : Prop :=
  ∃ l ∈ t.links, l.userId = userId ∧ l.issuer = issuer

/-- The person known to the provider has a link. -/
def HasPerson (t : Tables) (issuer externalId : String) : Prop :=
  ∃ l ∈ t.links, l.issuer = issuer ∧ l.externalId = externalId

/-- Every user has a link. -/
def EveryUserLinked (t : Tables) : Prop := ∀ u ∈ t.users, ∃ l ∈ t.links, l.userId = u.id

variable {t t' : Tables} {u : User} {l : Link} {id : Uuid} {email issuer : String}

/-! ## Lookups -/

/-- A user who is found under an identifier is stored under it. -/
theorem userById?_eq_some (h : t.userById? id = some u) : u ∈ t.users ∧ u.id = id :=
  ⟨List.mem_of_find?_eq_some h, by simpa using List.find?_some h⟩

/-- A user who is found under an address is stored under it. -/
theorem userByEmail?_eq_some (h : t.userByEmail? email = some u) : u ∈ t.users ∧ u.email = email :=
  ⟨List.mem_of_find?_eq_some h, by simpa using List.find?_some h⟩

/-- No user is found under an address that nobody has. -/
theorem userByEmail?_eq_none_iff : t.userByEmail? email = none ↔ ¬ t.HasEmail email := by
  simp [userByEmail?, HasEmail]

/-- A link that is found for a user and a provider is stored for them. -/
theorem link?_eq_some (h : t.link? id issuer = some l) :
    l ∈ t.links ∧ l.userId = id ∧ l.issuer = issuer :=
  ⟨List.mem_of_find?_eq_some h, by simpa using List.find?_some h⟩

/-- No link is found for a user who has none for the provider. -/
theorem link?_eq_none_iff : t.link? id issuer = none ↔ ¬ t.HasLink id issuer := by
  simp [link?, HasLink]

/-- What has a key that no other has, is found by it. -/
theorem find?_of_pairwise {ρ κ : Type} [DecidableEq κ] {key : ρ → κ} {rows : List ρ} {r : ρ}
    (h : rows.Pairwise fun r s => key r ≠ key s) (hr : r ∈ rows) :
    rows.find? (fun s => key s = key r) = some r := by
  induction h with
  | nil => cases hr
  | @cons s rows hs _ ih =>
    rcases List.mem_cons.1 hr with rfl | hr
    · simp
    · rw [List.find?_cons_of_neg (by simpa using hs r hr)]
      exact ih hr

/-- A stored user is found under the identifier. -/
theorem Sound.userById?_of_mem (h : t.Sound) (hu : u ∈ t.users) : t.userById? u.id = some u :=
  find?_of_pairwise h.distinctIds hu

/-- A stored user is found under the address. -/
theorem Sound.userByEmail?_of_mem (h : t.Sound) (hu : u ∈ t.users) :
    t.userByEmail? u.email = some u :=
  find?_of_pairwise h.distinctEmails hu

/-- A stored link is found under its user and its provider. -/
theorem Sound.link?_of_mem (h : t.Sound) (hl : l ∈ t.links) :
    t.link? l.userId l.issuer = some l := by
  rw [← find?_of_pairwise h.distinctUserIssuers hl]
  simp [link?, Prod.ext_iff]

/-- Users with the same address are the same. -/
theorem Sound.user_unique (h : t.Sound) {v : User} (hu : u ∈ t.users) (hv : v ∈ t.users)
    (e : u.email = v.email) : u = v := by
  have found := h.userByEmail?_of_mem hu
  rw [e, h.userByEmail?_of_mem hv] at found
  exact (Option.some.inj found).symm

/-- Links of the same user for the same provider are the same. -/
theorem Sound.link_unique (h : t.Sound) {m : Link} (hl : l ∈ t.links) (hm : m ∈ t.links)
    (e : l.userId = m.userId) (e' : l.issuer = m.issuer) : l = m := by
  have found := h.link?_of_mem hl
  rw [e, e', h.link?_of_mem hm] at found
  exact (Option.some.inj found).symm

/-- Links of the same person known to a provider are the same. -/
theorem Sound.person_unique (h : t.Sound) {m : Link} (hl : l ∈ t.links) (hm : m ∈ t.links)
    (e : l.issuer = m.issuer) (e' : l.externalId = m.externalId) : l = m := by
  let person (k : Link) : String × String := (k.issuer, k.externalId)
  have found (k : Link) (hk : k ∈ t.links) :
      t.links.find? (fun n => person n = person k) = some k :=
    find?_of_pairwise h.distinctPersons hk
  have same : person l = person m := Prod.ext e e'
  have foundBoth := found l hl
  rw [same, found m hm] at foundBoth
  exact (Option.some.inj foundBoth).symm

/-! ## Adding rows -/

/-- A user whose identifier is taken is refused. -/
theorem addUser_of_hasUser (h : t.HasUser u.id) :
    t.addUser u = .error (.conflict "users_pkey") := by
  unfold addUser
  rw [if_pos (by simpa [HasUser] using h)]

/-- A user whose address is taken is refused. -/
theorem addUser_of_hasEmail (hid : ¬ t.HasUser u.id) (h : t.HasEmail u.email) :
    t.addUser u = .error (.conflict "users_email_key") := by
  unfold addUser
  rw [if_neg (by simpa [HasUser] using hid), if_pos (by simpa [HasEmail] using h)]

/-- A user whose identifier and address are new is added behind the others. -/
theorem addUser_of_new (hid : ¬ t.HasUser u.id) (hemail : ¬ t.HasEmail u.email) :
    t.addUser u = .ok { t with users := t.users ++ [u] } := by
  unfold addUser
  rw [if_neg (by simpa [HasUser] using hid), if_neg (by simpa [HasEmail] using hemail)]

/-- A user can be added exactly when both its identifier and its address are new. -/
theorem addUser_eq_ok_iff : t.addUser u = .ok t' ↔
    ¬ t.HasUser u.id ∧ ¬ t.HasEmail u.email ∧ t' = { t with users := t.users ++ [u] } := by
  by_cases hid : t.HasUser u.id
  · simp [addUser_of_hasUser hid, hid]
  · by_cases hemail : t.HasEmail u.email
    · simp [addUser_of_hasEmail hid hemail, hemail]
    · simp [addUser_of_new hid hemail, hid, hemail, eq_comm]

/-- A link without a stored user is refused. -/
theorem addLink_of_not_hasUser (h : ¬ t.HasUser l.userId) :
    t.addLink l = .error (.foreignKey "fk_links_user") := by
  unfold addLink
  rw [if_pos (by simpa [HasUser] using h)]

/-- A second link of a user for a provider is refused. -/
theorem addLink_of_hasLink (howner : t.HasUser l.userId) (h : t.HasLink l.userId l.issuer) :
    t.addLink l = .error (.conflict "links_user_id_issuer_key") := by
  unfold addLink
  rw [if_neg (by simpa [HasUser] using howner), if_pos (by simpa [HasLink] using h)]

/-- A link of a person who is linked already is refused. -/
theorem addLink_of_hasPerson (howner : t.HasUser l.userId) (hlink : ¬ t.HasLink l.userId l.issuer)
    (h : t.HasPerson l.issuer l.externalId) :
    t.addLink l = .error (.conflict "links_issuer_external_id_key") := by
  unfold addLink
  rw [if_neg (by simpa [HasUser] using howner), if_neg (by simpa [HasLink] using hlink),
    if_pos (by simpa [HasPerson] using h)]

/-- A link of a stored user that is new in both ways is added behind the others. -/
theorem addLink_of_new (howner : t.HasUser l.userId) (hlink : ¬ t.HasLink l.userId l.issuer)
    (hperson : ¬ t.HasPerson l.issuer l.externalId) :
    t.addLink l = .ok { t with links := t.links ++ [l] } := by
  unfold addLink
  rw [if_neg (by simpa [HasUser] using howner), if_neg (by simpa [HasLink] using hlink),
    if_neg (by simpa [HasPerson] using hperson)]

/-- A link can be added exactly when its user is stored, the user has no link for its provider, and
the person has no link with the provider. -/
theorem addLink_eq_ok_iff : t.addLink l = .ok t' ↔ t.HasUser l.userId ∧
    ¬ t.HasLink l.userId l.issuer ∧ ¬ t.HasPerson l.issuer l.externalId ∧
    t' = { t with links := t.links ++ [l] } := by
  by_cases howner : t.HasUser l.userId
  · by_cases hlink : t.HasLink l.userId l.issuer
    · simp [addLink_of_hasLink howner hlink, hlink]
    · by_cases hperson : t.HasPerson l.issuer l.externalId
      · simp [addLink_of_hasPerson howner hlink hperson, hperson]
      · simp [addLink_of_new howner hlink hperson, howner, hlink, hperson, eq_comm]
  · simp [addLink_of_not_hasUser howner, howner]

/-! ## Adding the rows of a unit of work -/

/-- A computation that succeeds does so in both of its parts. -/
theorem exists_of_bind_eq_ok {ε α β : Type} {x : Except ε α} {f : α → Except ε β} {b : β}
    (h : x >>= f = .ok b) : ∃ a, x = .ok a ∧ f a = .ok b := by
  cases x with
  | error e => cases h
  | ok a => exact ⟨a, rfl, h⟩

/-- Users are added behind the others, and links stay. -/
theorem rows_of_addUsers {us : List User} (h : us.foldlM addUser t = .ok t') :
    t'.users = t.users ++ us ∧ t'.links = t.links := by
  induction us generalizing t with
  | nil => cases h; simp
  | cons u us ih =>
    rw [List.foldlM_cons] at h
    obtain ⟨t₁, h₁, h₂⟩ := exists_of_bind_eq_ok h
    obtain ⟨-, -, rfl⟩ := addUser_eq_ok_iff.1 h₁
    obtain ⟨hu, hl⟩ := ih h₂
    exact ⟨by simp [hu], hl⟩

/-- Links are added behind the others, and users stay. -/
theorem rows_of_addLinks {ls : List Link} (h : ls.foldlM addLink t = .ok t') :
    t'.users = t.users ∧ t'.links = t.links ++ ls := by
  induction ls generalizing t with
  | nil => cases h; simp
  | cons l ls ih =>
    rw [List.foldlM_cons] at h
    obtain ⟨t₁, h₁, h₂⟩ := exists_of_bind_eq_ok h
    obtain ⟨-, -, -, rfl⟩ := addLink_eq_ok_iff.1 h₁
    obtain ⟨hu, hl⟩ := ih h₂
    exact ⟨hu, by simp [hl]⟩

/-- A unit of work appends its rows. -/
theorem rows_of_apply {w : UnitOfWork} (h : w.apply t = .ok t') :
    t'.users = t.users ++ w.users ∧ t'.links = t.links ++ w.links := by
  obtain ⟨t₁, h₁, h₂⟩ := exists_of_bind_eq_ok h
  obtain ⟨hu, hl⟩ := rows_of_addUsers h₁
  obtain ⟨hu', hl'⟩ := rows_of_addLinks h₂
  exact ⟨hu'.trans hu, by rw [hl', hl]⟩

/-- A unit of work with one link adds it as a single link is added. -/
theorem apply_link (t : Tables) (l : Link) : UnitOfWork.apply { links := [l] } t = t.addLink l := by
  show (t.addLink l >>= fun t' => pure t') = _
  cases t.addLink l <;> rfl

/-- A unit of work with a user and a link adds first the user, then the link. -/
theorem apply_both (t : Tables) (u : User) (l : Link) :
    UnitOfWork.apply { users := [u], links := [l] } t = t.addUser u >>= fun t' => t'.addLink l := by
  show ((t.addUser u >>= fun t' => pure t') >>= fun t' => t'.addLink l >>= fun t'' => pure t'') = _
  cases t.addUser u with
  | error e => rfl
  | ok t' =>
    show (t'.addLink l >>= fun t'' => pure t'') = t'.addLink l
    cases t'.addLink l <;> rfl

/-! ## Soundness -/

/-- Tables without rows satisfy the constraints. -/
theorem sound_empty : Sound {} :=
  ⟨.nil, .nil, .nil, .nil, fun _ h => nomatch h⟩

/-- Who is not stored has no link. -/
theorem Sound.not_hasLink (h : t.Sound) (hid : ¬ t.HasUser id) (issuer : String) :
    ¬ t.HasLink id issuer := by
  rintro ⟨l, hl, rfl, -⟩
  exact hid (h.ownersExist l hl)

/-- A user and a link whose address and person are new can be added. -/
theorem apply_both_of_new (h : t.Sound)
    (howner : l.userId = u.id) (fresh : ¬ t.HasUser u.id) (unknown : ¬ t.HasEmail u.email)
    (stranger : ¬ t.HasPerson l.issuer l.externalId) :
    UnitOfWork.apply { users := [u], links := [l] } t
      = .ok { users := t.users ++ [u], links := t.links ++ [l] } := by
  rw [apply_both, addUser_of_new fresh unknown]
  refine addLink_of_new ⟨u, by simp, howner.symm⟩ ?_ stranger
  exact howner ▸ h.not_hasLink fresh _

/-- With a new address, a link is refused for its person alone. -/
theorem apply_both_of_hasPerson (h : t.Sound)
    (howner : l.userId = u.id) (fresh : ¬ t.HasUser u.id) (unknown : ¬ t.HasEmail u.email)
    (known : t.HasPerson l.issuer l.externalId) :
    UnitOfWork.apply { users := [u], links := [l] } t
      = .error (.conflict "links_issuer_external_id_key") := by
  rw [apply_both, addUser_of_new fresh unknown]
  refine addLink_of_hasPerson ⟨u, by simp, howner.symm⟩ ?_ known
  exact howner ▸ h.not_hasLink fresh _

/-- Adding a user keeps the constraints. -/
theorem Sound.addUser (h : t.Sound) (ht : t.addUser u = .ok t') : t'.Sound := by
  obtain ⟨hid, hemail, rfl⟩ := addUser_eq_ok_iff.1 ht
  refine ⟨?_, ?_, h.distinctUserIssuers, h.distinctPersons, ?_⟩
  · refine List.pairwise_append.2 ⟨h.distinctIds, List.pairwise_singleton _ _, ?_⟩
    intro v hv w hw
    rw [List.mem_singleton.1 hw]
    exact fun e => hid ⟨v, hv, e⟩
  · refine List.pairwise_append.2 ⟨h.distinctEmails, List.pairwise_singleton _ _, ?_⟩
    intro v hv w hw
    rw [List.mem_singleton.1 hw]
    exact fun e => hemail ⟨v, hv, e⟩
  · intro l hl
    obtain ⟨v, hv, e⟩ := h.ownersExist l hl
    exact ⟨v, List.mem_append_left _ hv, e⟩

/-- Adding a link keeps the constraints. -/
theorem Sound.addLink (h : t.Sound) (ht : t.addLink l = .ok t') : t'.Sound := by
  obtain ⟨howner, hlink, hperson, rfl⟩ := addLink_eq_ok_iff.1 ht
  refine ⟨h.distinctIds, h.distinctEmails, ?_, ?_, ?_⟩
  · refine List.pairwise_append.2 ⟨h.distinctUserIssuers, List.pairwise_singleton _ _, ?_⟩
    intro m hm n hn
    rw [List.mem_singleton.1 hn]
    exact fun e => hlink ⟨m, hm, (Prod.mk.inj e).1, (Prod.mk.inj e).2⟩
  · refine List.pairwise_append.2 ⟨h.distinctPersons, List.pairwise_singleton _ _, ?_⟩
    intro m hm n hn
    rw [List.mem_singleton.1 hn]
    exact fun e => hperson ⟨m, hm, (Prod.mk.inj e).1, (Prod.mk.inj e).2⟩
  · intro m hm
    rcases List.mem_append.1 hm with hm | hm
    · exact h.ownersExist m hm
    · rw [List.mem_singleton.1 hm]
      exact howner

/-- What every added row keeps, a list of rows keeps. -/
theorem Sound.foldlM {ρ : Type} {add : Tables → ρ → Except StorageError Tables}
    (keeps : ∀ {t r t'}, t.Sound → add t r = .ok t' → t'.Sound) {rows : List ρ} (h : t.Sound)
    (ht : rows.foldlM add t = .ok t') : t'.Sound := by
  induction rows generalizing t with
  | nil => cases ht; exact h
  | cons r rows ih =>
    rw [List.foldlM_cons] at ht
    obtain ⟨t₁, h₁, h₂⟩ := exists_of_bind_eq_ok ht
    exact ih (keeps h h₁) h₂

/-- The rows of a unit of work keep the tables sound, whatever they are. -/
theorem Sound.apply {w : UnitOfWork} (h : t.Sound) (ht : w.apply t = .ok t') : t'.Sound := by
  obtain ⟨t₁, h₁, h₂⟩ := exists_of_bind_eq_ok ht
  exact (h.foldlM Sound.addUser h₁).foldlM Sound.addLink h₂

/-- The constraints only depend on the users and on what the links bind. -/
theorem Sound.of_bindings (h : t.Sound) (hu : t'.users = t.users)
    (hl : t'.links.map Link.binding = t.links.map Link.binding) : t'.Sound := by
  -- Both constraints on pairs of links speak of what they bind only.
  have pairwise (R : Uuid × String × String → Uuid × String × String → Prop)
      (hR : t.links.Pairwise fun l m => R l.binding m.binding) :
      t'.links.Pairwise fun l m => R l.binding m.binding := by
    rw [← List.pairwise_map (R := R), hl]
    exact List.pairwise_map.2 hR
  refine ⟨hu ▸ h.distinctIds, hu ▸ h.distinctEmails, ?_, ?_, ?_⟩
  · exact pairwise (fun a b => (a.1, a.2.1) ≠ (b.1, b.2.1)) h.distinctUserIssuers
  · exact pairwise (fun a b => a.2 ≠ b.2) h.distinctPersons
  · intro l hl'
    have hb : l.binding ∈ t.links.map Link.binding := hl ▸ List.mem_map_of_mem hl'
    obtain ⟨m, hm, e⟩ := List.mem_map.1 hb
    obtain ⟨u, hu', e'⟩ := h.ownersExist m hm
    exact ⟨u, hu ▸ hu', e'.trans (congrArg Prod.fst e)⟩

/-- Storing tokens leaves the users alone, and of the links all that tokens are not part of. -/
theorem map_of_updateLink {κ : Type} {f : Link → κ} (apart : ∀ m, f (withTokens m l) = f m)
    (h : t.updateLink l = .ok t') : t'.users = t.users ∧ t'.links.map f = t.links.map f := by
  unfold updateLink at h
  split at h
  · cases h
  · cases h
    refine ⟨rfl, ?_⟩
    rw [List.map_map]
    refine List.map_congr_left fun m _ => ?_
    simp only [Function.comp_apply]
    split
    · exact apart m
    · rfl

/-- Storing tokens changes no user, nor whom a link binds to what. -/
theorem bindings_of_updateLink (h : t.updateLink l = .ok t') :
    t'.users = t.users ∧ t'.links.map Link.binding = t.links.map Link.binding :=
  map_of_updateLink (fun _ => rfl) h

/-- Storing tokens keeps the constraints. -/
theorem Sound.updateLink (h : t.Sound) (ht : t.updateLink l = .ok t') : t'.Sound :=
  h.of_bindings (bindings_of_updateLink ht).1 (bindings_of_updateLink ht).2

/-- Of sound tables, storing tokens changes the one row of the link. -/
theorem Sound.updateLink_eq (h : t.Sound) {stored : Link} {before after : List Link}
    (rows : t.links = before ++ stored :: after) (key : l.userId = stored.userId)
    (key' : l.issuer = stored.issuer) :
    t.updateLink l = .ok { t with links := before ++ withTokens stored l :: after } := by
  have mem : stored ∈ t.links := by simp [rows]
  have distinct := h.distinctUserIssuers
  rw [rows] at distinct
  obtain ⟨-, below, apart⟩ := List.pairwise_append.1 distinct
  -- No two links share user and provider, so no other row is the one to change.
  have others : ∀ m ∈ before ++ after, ¬(m.userId = l.userId ∧ m.issuer = l.issuer) := by
    rintro m hm ⟨e, e'⟩
    have key₂ : (m.userId, m.issuer) = (stored.userId, stored.issuer) := by rw [e, e', key, key']
    rcases List.mem_append.1 hm with hm | hm
    · exact apart m hm stored List.mem_cons_self key₂
    · exact (List.pairwise_cons.1 below).1 m hm key₂.symm
  have keep (ms : List Link) (hms : ∀ m ∈ ms, ¬(m.userId = l.userId ∧ m.issuer = l.issuer)) :
      (ms.map fun m => if m.userId = l.userId ∧ m.issuer = l.issuer then withTokens m l else m)
        = ms := by
    rw [List.map_congr_left fun m hm => if_neg (hms m hm)]
    exact List.map_id ms
  unfold Tables.updateLink
  rw [key, key', h.link?_of_mem mem, ← key, ← key']
  simp only [rows, List.map_append, List.map_cons, key, key', and_self, if_true]
  rw [← key, ← key', keep before fun m hm => others m (List.mem_append_left _ hm),
    keep after fun m hm => others m (List.mem_append_right _ hm)]

/-- Removing a user keeps the constraints, for the links of the user go as well. -/
theorem Sound.removeUser (h : t.Sound) (id : Uuid) : (t.removeUser id).Sound := by
  refine ⟨h.distinctIds.filter _, h.distinctEmails.filter _, h.distinctUserIssuers.filter _,
    h.distinctPersons.filter _, ?_⟩
  intro l hl
  -- The links of the user go with the user, so every other link keeps its owner.
  obtain ⟨hl, hid⟩ := List.mem_filter.1 hl
  obtain ⟨u, hu, e⟩ := h.ownersExist l hl
  exact ⟨u, List.mem_filter.2 ⟨hu, by simpa [e] using hid⟩, e⟩

/-! ## Every user has a link -/

/-- Who is linked depends only on the users and on what their links bind. -/
theorem EveryUserLinked.of_bindings (h : t.EveryUserLinked) (hu : t'.users = t.users)
    (hl : t'.links.map Link.binding = t.links.map Link.binding) : t'.EveryUserLinked := by
  intro u hu'
  obtain ⟨l, hl', e⟩ := h u (hu ▸ hu')
  have hb : l.binding ∈ t'.links.map Link.binding := hl ▸ List.mem_map_of_mem hl'
  obtain ⟨m, hm, e'⟩ := List.mem_map.1 hb
  exact ⟨m, hm, (congrArg Prod.fst e').trans e⟩

/-- Those who are left keep their links when a user is removed. -/
theorem EveryUserLinked.removeUser (h : t.EveryUserLinked) (id : Uuid) :
    (t.removeUser id).EveryUserLinked := by
  intro u hu
  obtain ⟨hu, hid⟩ := List.mem_filter.1 hu
  obtain ⟨l, hl, e⟩ := h u hu
  exact ⟨l, List.mem_filter.2 ⟨hl, by simpa [e] using hid⟩, e⟩

end Tables

/-- Each user of the unit of work comes with a link. -/
def UnitOfWork.Balanced (w : UnitOfWork) : Prop := ∀ u ∈ w.users, ∃ l ∈ w.links, l.userId = u.id

/-- A unit of work that brings a link for each of its users leaves nobody without one. -/
theorem Tables.EveryUserLinked.apply {t t' : Tables} {w : UnitOfWork} (h : t.EveryUserLinked)
    (hw : w.Balanced) (ht : w.apply t = .ok t') : t'.EveryUserLinked := by
  obtain ⟨hu, hl⟩ := rows_of_apply ht
  intro u hu'
  rw [hu] at hu'
  rw [hl]
  rcases List.mem_append.1 hu' with hu' | hu'
  · obtain ⟨l, hl', e⟩ := h u hu'
    exact ⟨l, List.mem_append_left _ hl', e⟩
  · obtain ⟨l, hl', e⟩ := hw u hu'
    exact ⟨l, List.mem_append_right _ hl', e⟩

end FederatedLogin
