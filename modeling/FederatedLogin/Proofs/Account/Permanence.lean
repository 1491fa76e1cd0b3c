import FederatedLogin.Proofs.Account.Interleaving

/-!
# Accounts and bindings are permanent

Whatever operations run, in whatever order they take their turns, the row of a user stays as it is
until the user is removed, and so does all of a link that is not a token (`Link.origin`). The
relation `Tables.Remains` says so of the tables at two times. It holds across every answered call,
since no call does more than store tokens or add rows, and across the removal of any other user; so
it holds across every run (`Pool.remains_run`). Together with the constraints, which every run keeps
too, it follows that a person never comes to belong to another user (`bindings_permanent`).
-/

namespace FederatedLogin

/-- What never changes of a link: the user, the provider, the person, and when it was created. -/
def Link.origin (l : Link) : Uuid × String × String × Time.Instant :=
  (l.userId, l.issuer, l.externalId, l.createdAt)

namespace Tables

variable {t t' t₁ t₂ t₃ : Tables} {id : Uuid}

/-- What the first tables hold of the user with the identifier is in the second ones, but for the
tokens of the links. -/
structure Remains (id : Uuid) (t t' : Tables) : Prop where
  user : ∀ u ∈ t.users, u.id = id → u ∈ t'.users
  links : ∀ l ∈ t.links, l.userId = id → ∃ l' ∈ t'.links, l'.origin = l.origin

theorem Remains.refl (id : Uuid) (t : Tables) : Remains id t t :=
  ⟨fun _ hu _ => hu, fun l hl _ => ⟨l, hl, rfl⟩⟩

theorem Remains.trans (h : Remains id t₁ t₂) (h' : Remains id t₂ t₃) : Remains id t₁ t₃ := by
  refine ⟨fun u hu e => h'.user u (h.user u hu e) e, fun l hl e => ?_⟩
  obtain ⟨l₂, hl₂, e₂⟩ := h.links l hl e
  obtain ⟨l₃, hl₃, e₃⟩ := h'.links l₂ hl₂ ((congrArg Prod.fst e₂).trans e)
  exact ⟨l₃, hl₃, e₃.trans e₂⟩

theorem remains_updateLink {l : Link} (h : t.updateLink l = .ok t') : Remains id t t' := by
  obtain ⟨hu, hl⟩ := map_of_updateLink (f := Link.origin) (fun _ => rfl) h
  refine ⟨fun u hu' _ => hu ▸ hu', fun m hm _ => ?_⟩
  exact List.mem_map.1 (hl ▸ List.mem_map_of_mem hm)

theorem remains_apply {w : UnitOfWork} (h : w.apply t = .ok t') : Remains id t t' := by
  obtain ⟨hu, hl⟩ := rows_of_apply h
  refine ⟨fun u hu' _ => ?_, fun m hm _ => ⟨m, ?_, rfl⟩⟩
  · rw [hu]
    exact List.mem_append_left _ hu'
  · rw [hl]
    exact List.mem_append_left _ hm

/-- Only the rows of the user who is removed go away. -/
theorem remains_removeUser {other : Uuid} (ne : id ≠ other) :
    Remains id t (t.removeUser other) := by
  refine ⟨fun u hu e => List.mem_filter.2 ⟨hu, ?_⟩,
    fun m hm e => ⟨m, List.mem_filter.2 ⟨hm, ?_⟩, rfl⟩⟩
  · simpa [e] using ne
  · simpa [e] using ne

end Tables

/-! ## Runs -/

namespace Pool

open Tables

variable {ρ α : Type} (serve : ρ → Service α) {id : Uuid}

/-- No event but the removal of a user takes anything of the user away. -/
theorem remains_after (p : Pool ρ α) {e : Event ρ} (kept : e ≠ .removeUser id) :
    Remains id p.backend.tables (p.after serve e).backend.tables := by
  have move := move_after serve p e
  generalize p.after serve e = q at move
  cases move with
  | start r => exact .refl id _
  | turn _ _ answered =>
    rcases Backend.tables_of_answer answered with same | ⟨l, -, stored⟩ | ⟨-, added⟩
    · rw [same]
      exact .refl id _
    · exact remains_updateLink stored
    · exact remains_apply added
  | remove other =>
    refine remains_removeUser fun e => kept ?_
    rw [e]
  | idle _ same _ =>
    rw [same]
    exact .refl id _

theorem remains_run (p : Pool ρ α) {events : List (Event ρ)}
    (kept : Event.removeUser id ∉ events) :
    Remains id p.backend.tables (p.run serve events).backend.tables := by
  refine run_induction serve (motive := fun q => Remains id p.backend.tables q.backend.tables)
    (.refl id _) fun q e he h => h.trans (remains_after serve q fun same => kept ?_)
  rwa [← same]

theorem sound_after {p : Pool ρ α} (h : p.backend.tables.Sound) (e : Event ρ) :
    (p.after serve e).backend.tables.Sound := by
  have move := move_after serve p e
  generalize p.after serve e = q at move
  cases move with
  | start r => exact h
  | turn _ _ answered => exact Backend.sound_of_answer answered h
  | remove other => exact h.removeUser other
  | idle _ same _ => rwa [same]

theorem sound_run {p : Pool ρ α} (h : p.backend.tables.Sound) (events : List (Event ρ)) :
    (p.run serve events).backend.tables.Sound :=
  run_induction serve (motive := fun q => q.backend.tables.Sound) h
    fun _ e _ hq => sound_after serve hq e

end Pool

/-! ## Accounts -/

namespace Account

open Tables

/-- Operations on accounts run on sound tables, and users are removed, in any order and with any
failures. From the moment at which a user is stored until the user is removed, the same row is found
under the identifier. Each link of the user is found too, with the same user, provider, person and
time of creation, and no other link is of that person. What is no longer there belonged to a user
who was removed. -/
theorem bindings_permanent (b : Backend) (t : Tables) (sound : t.Sound)
    (es₁ es₂ : List (Event Operation)) :
    let p := Pool.run Operation.serve ⟨{ b with tables := t }, [], []⟩ es₁
    let before := p.backend.tables
    let later := (p.run Operation.serve es₂).backend.tables
    (∀ u ∈ before.users, Event.removeUser u.id ∉ es₂ →
      later.userById? u.id = some u ∧
      ∀ l ∈ before.links, l.userId = u.id →
        ∃ l', later.link? u.id l.issuer = some l' ∧ l'.origin = l.origin ∧
          ∀ m ∈ later.links, m.issuer = l.issuer → m.externalId = l.externalId → m = l') ∧
    (∀ u ∈ before.users, u ∉ later.users → Event.removeUser u.id ∈ es₂) ∧
    ∀ l ∈ before.links, l.origin ∉ later.links.map Link.origin →
      Event.removeUser l.userId ∈ es₂ := by
  intro p before later
  have sound₁ : before.Sound :=
    Pool.sound_run Operation.serve (p := ⟨{ b with tables := t }, [], []⟩) sound es₁
  have sound₂ : later.Sound := Pool.sound_run Operation.serve sound₁ es₂
  have remains {id : Uuid} (kept : Event.removeUser id ∉ es₂) : Remains id before later :=
    Pool.remains_run Operation.serve p kept
  refine ⟨fun u hu kept => ⟨sound₂.userById?_of_mem ((remains kept).user u hu rfl), ?_⟩, ?_, ?_⟩
  · intro l hl owner
    obtain ⟨l', hl', same⟩ := (remains kept).links l hl owner
    obtain ⟨sameUser, sameIssuer, samePerson, -⟩ : l'.userId = l.userId ∧ l'.issuer = l.issuer ∧
      l'.externalId = l.externalId ∧ l'.createdAt = l.createdAt := by simpa [Link.origin] using same
    refine ⟨l', ?_, same, fun m hm issuer person => ?_⟩
    · rw [← owner, ← sameUser, ← sameIssuer]
      exact sound₂.link?_of_mem hl'
    · refine sound₂.person_unique hm hl' ?_ ?_
      · rw [issuer, sameIssuer]
      · rw [person, samePerson]
  · intro u hu gone
    refine Classical.byContradiction fun kept => gone ?_
    exact (remains kept).user u hu rfl
  · intro l hl gone
    refine Classical.byContradiction fun kept => gone ?_
    obtain ⟨l', hl', same⟩ := (remains kept).links l hl rfl
    exact List.mem_map.2 ⟨l', hl', same⟩

/-- A person, to whom the provider gives a new name, logs in while the tokens of the link are
revoked. -/
theorem bindings_permanent_renamed :
    let user : User := { (default : User) with email := "a@x" }
    let link : Link := { (default : Link) with issuer := "github", externalId := "s" }
    let b : Backend := default
    let t : Tables := ⟨[user], [link]⟩
    let es₁ : List (Event Operation) :=
      [.start (.onboard "github" default ⟨"t", "", "a@x", true, none, none⟩),
        .start (.revokeLink user.id "github"), .turn 0, .turn 0, .turn 0, .turn 0]
    let es₂ : List (Event Operation) :=
      [.turn 1, .turn 1, .turn 1, .turn 1, .turn 0, .removeUser (Uuid.ofRandom 7)]
    t.Sound ∧ Event.removeUser user.id ∉ es₂ ∧
      let p := Pool.run Operation.serve ⟨{ b with tables := t }, [], []⟩ es₁
      let later := (p.run Operation.serve es₂).backend.tables
      user ∈ p.backend.tables.users ∧ link ∈ p.backend.tables.links ∧
        later.userById? user.id = some user ∧
        ∃ l', later.link? user.id link.issuer = some l' ∧ l'.origin = link.origin := by
  intro user link b t es₁ es₂
  have sound : t.Sound := ⟨by decide, by decide, by decide, by decide, by decide⟩
  have other : user.id ≠ Uuid.ofRandom 7 := by decide +kernel
  have kept : Event.removeUser user.id ∉ es₂ := by simp [es₂, other]
  let before := (Pool.run Operation.serve ⟨{ b with tables := t }, [], []⟩ es₁).backend.tables
  have stored : user ∈ before.users := by decide +kernel
  have linked : link ∈ before.links := by decide +kernel
  obtain ⟨sameUser, links⟩ := (bindings_permanent b t sound es₁ es₂).1 user stored kept
  obtain ⟨l', found, same, -⟩ := links link linked rfl
  exact ⟨sound, kept, stored, linked, sameUser, l', found, same⟩

end Account

end FederatedLogin
