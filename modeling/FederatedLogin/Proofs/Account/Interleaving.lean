import FederatedLogin.Account.Onboarding
import FederatedLogin.Proofs.Account.Tables
import FederatedLogin.Proofs.Backend.Pool

/-!
# Accounts under interleaving

Operations on accounts take turns, one call at a time, while failures are scripted and users are
removed at will. Whatever the order of the turns, and wherever an operation is dropped, the tables
satisfy all constraints and every user has a link (`constraints_hold`). A commit keeps the
constraints by itself; that every user has a link rests on what the operations commit: none of them
adds a user without a link (`commitsBalanced_serve`).
-/

namespace FederatedLogin

/-- What can be asked of the accounts. -/
inductive Operation where
  | onboard (issuer : String) (tokens : TokenSet) (identity : Identity)
  | updateLink (link : Link)
  | revokeLink (userId : Uuid) (issuer : String)
  | userById (id : Uuid)
  | userByEmail (email : String)

/-- What an operation on accounts gives. -/
inductive Record where
  | onboarded (o : Onboarded)
  | link (l : Link)
  | user (u : User)

namespace Operation

/-- The program of an operation. -/
def serve : Operation → Service (Except AccountError Record)
  | onboard issuer tokens identity =>
    Except.map .onboarded <$> Account.onboard issuer tokens identity
  | updateLink link => Except.map .link <$> Account.updateLink link
  | revokeLink userId issuer => Except.map .link <$> Account.revokeLink userId issuer
  | userById id => Except.map .user <$> Account.userById id
  | userByEmail email => Except.map .user <$> Account.userByEmail email

end Operation

namespace Account

variable {α β : Type}

/-! ## What operations commit -/

/-- The protocol of programs that commit balanced units of work only. -/
def balanced : Protocol Call Call.Answer UnitOfWork where
  permits w c := c = .commit → w.Balanced
  answers w c a w' := ∃ b b' : Backend, b.work = w ∧ b.answer c = .ok (a, b') ∧ b'.work = w'

/-- Whatever it is answered, the program commits balanced units of work only. -/
def CommitsBalanced (p : Service α) : Prop := ∀ w, p.Keeps balanced (fun _ _ => True) w

theorem commitsBalanced_pure (a : α) : CommitsBalanced (pure a : Service α) :=
  fun _ _ _ => trivial

theorem commitsBalanced_call {c : Call} (hc : c ≠ .commit) : CommitsBalanced (call c) :=
  fun _ _ _ => ⟨fun e => absurd e hc, fun _ _ _ _ _ => trivial⟩

theorem CommitsBalanced.bind {p : Service α} {f : α → Service β} (hp : CommitsBalanced p)
    (hf : ∀ a, CommitsBalanced (f a)) : CommitsBalanced (p >>= f) :=
  fun w => Program.Keeps.bind ((hp w).mono fun a w' _ => hf a w')

theorem CommitsBalanced.map {p : Service α} (hp : CommitsBalanced p) (g : α → β) :
    CommitsBalanced (g <$> p) :=
  fun w => Program.Keeps.map (hp w)

/-- A transaction commits what its work leaves behind. -/
theorem commitsBalanced_inTransaction {work : Service (Except StorageError α)}
    (h : work.Keeps balanced (fun r w => r.isOk → w.Balanced) {}) :
    CommitsBalanced (inTransaction work) := by
  intro w
  refine Program.keeps_ask_bind fun _ _ => ⟨nofun, ?_⟩
  rintro (e | ⟨⟩) w₁ ⟨b, b', -, began, rfl⟩
  · exact fun _ _ => trivial
  · -- Whatever the unit of work was, it is empty now.
    rw [Backend.work_of_begin began]
    refine Program.Keeps.bind (h.mono fun r w₂ hr => ?_)
    cases r with
    | error e => exact fun _ _ => trivial
    | ok a =>
      refine Program.keeps_ask_bind ?_
      rintro _ rfl
      refine ⟨fun _ => hr rfl, ?_⟩
      rintro (e | ⟨⟩) w₃ _ <;> exact fun _ _ => trivial

/-- A new user is committed together with a link. -/
theorem commitsBalanced_insertBoth {user : User} {link : Link} (h : link.userId = user.id) :
    CommitsBalanced (inTransaction (insertBoth user link)) := by
  refine commitsBalanced_inTransaction (Program.keeps_ask_bind ?_)
  rintro _ rfl
  refine ⟨nofun, ?_⟩
  rintro (e | ⟨⟩) w ⟨b, b', hb, inserted, rfl⟩
  · rintro _ _ ⟨⟩
  · rintro _ rfl
    refine ⟨nofun, ?_⟩
    rintro (e | ⟨⟩) w' ⟨b₁, b₁', hb₁, linked, rfl⟩
    · rintro _ _ ⟨⟩
    · rintro _ rfl -
      rw [Backend.work_of_insertLink linked, hb₁, Backend.work_of_insertUser inserted, hb]
      intro u hu
      obtain rfl : u = user := by simpa using hu
      exact ⟨link, by simp, h⟩

/-- A link for a stored user may be committed alone. -/
theorem commitsBalanced_insertLink (link : Link) :
    CommitsBalanced (inTransaction (call (.insertLink link))) := by
  refine commitsBalanced_inTransaction ?_
  rintro _ rfl
  refine ⟨nofun, ?_⟩
  rintro (e | ⟨⟩) w ⟨b, b', hb, linked, rfl⟩
  · rintro _ _ ⟨⟩
  · rintro _ rfl -
    rw [Backend.work_of_insertLink linked, hb]
    intro u hu
    cases hu

theorem commitsBalanced_createUser (issuer : String) (tokens : TokenSet) (identity : Identity)
    (now : Time.Instant) : CommitsBalanced (createUser issuer tokens identity now) := by
  unfold createUser
  refine CommitsBalanced.bind (commitsBalanced_call (by nofun)) fun id => ?_
  exact (commitsBalanced_insertBoth rfl).map _

theorem commitsBalanced_refreshLink (user : User) (link : Link) (tokens : TokenSet)
    (identity : Identity) (now : Time.Instant) :
    CommitsBalanced (refreshLink user link tokens identity now) := by
  unfold refreshLink
  split
  · refine CommitsBalanced.bind (commitsBalanced_call (by nofun)) fun _ => ?_
    exact CommitsBalanced.map (commitsBalanced_call (by nofun)) _
  · exact CommitsBalanced.map (commitsBalanced_call (by nofun)) _

theorem commitsBalanced_resolve (issuer : String) (tokens : TokenSet) (identity : Identity) :
    CommitsBalanced (resolve issuer tokens identity) := by
  unfold resolve
  refine CommitsBalanced.bind (commitsBalanced_call (by nofun)) fun now => ?_
  refine CommitsBalanced.bind (commitsBalanced_call (by nofun)) fun user => ?_
  split
  · exact commitsBalanced_createUser issuer tokens identity now
  · exact commitsBalanced_pure _
  · refine CommitsBalanced.bind (commitsBalanced_call (by nofun)) fun link => ?_
    split
    · exact (commitsBalanced_insertLink _).map _
    · exact commitsBalanced_pure _
    · exact commitsBalanced_refreshLink _ _ tokens identity now

theorem commitsBalanced_onboard (issuer : String) (tokens : TokenSet) (identity : Identity) :
    CommitsBalanced (onboard issuer tokens identity) := by
  unfold onboard
  refine (commitsBalanced_resolve issuer tokens identity).bind fun result => ?_
  split
  · refine CommitsBalanced.bind (commitsBalanced_call (by nofun)) fun _ => ?_
    exact commitsBalanced_resolve issuer tokens identity
  · exact commitsBalanced_pure _

theorem commitsBalanced_updateLink (link : Link) : CommitsBalanced (updateLink link) := by
  unfold updateLink
  refine CommitsBalanced.bind (commitsBalanced_call (by nofun)) fun stored => ?_
  split
  · exact commitsBalanced_pure _
  · refine CommitsBalanced.bind (commitsBalanced_call (by nofun)) fun now => ?_
    refine CommitsBalanced.bind (commitsBalanced_call (by nofun)) fun result => ?_
    split <;> exact commitsBalanced_pure _

/-- No operation on accounts adds a user without a link. -/
theorem commitsBalanced_serve (o : Operation) : CommitsBalanced o.serve := by
  cases o with
  | onboard issuer tokens identity =>
    exact (commitsBalanced_onboard issuer tokens identity).map _
  | updateLink link => exact (commitsBalanced_updateLink link).map _
  | revokeLink userId issuer =>
    refine CommitsBalanced.map ?_ _
    unfold revokeLink
    exact CommitsBalanced.bind (commitsBalanced_call (by nofun)) fun now =>
      commitsBalanced_updateLink _
  | userById id =>
    refine CommitsBalanced.map ?_ _
    unfold userById
    refine CommitsBalanced.bind (commitsBalanced_call (by nofun)) fun user => ?_
    split <;> exact commitsBalanced_pure _
  | userByEmail email =>
    refine CommitsBalanced.map ?_ _
    unfold userByEmail
    refine CommitsBalanced.bind (commitsBalanced_call (by nofun)) fun user => ?_
    split <;> exact commitsBalanced_pure _

/-! ## The invariant -/

/-- The tables satisfy all constraints, and every user has a link. -/
structure Consistent (t : Tables) : Prop where
  sound : t.Sound
  everyUserLinked : t.EveryUserLinked

/-- A call that was answered keeps the tables consistent, unless it commits an unbalanced unit of
work. -/
theorem Consistent.answer {b b' : Backend} {c : Call} {a : c.Answer} (h : Consistent b.tables)
    (hw : c = .commit → b.work.Balanced) (ha : b.answer c = .ok (a, b')) :
    Consistent b'.tables := by
  refine ⟨Backend.sound_of_answer ha h.sound, ?_⟩
  rcases Backend.tables_of_answer ha with e | ⟨l, -, e⟩ | ⟨rfl, e⟩
  · rw [e]
    exact h.everyUserLinked
  · obtain ⟨hu, hl⟩ := Tables.bindings_of_updateLink e
    exact h.everyUserLinked.of_bindings hu hl
  · exact h.everyUserLinked.apply (hw rfl) e

/-- Each task commits balanced units of work only, from where it is on. -/
def TasksCommitBalanced (p : Pool Operation (Except AccountError Record)) : Prop :=
  ∀ t ∈ p.tasks, t.program.Keeps balanced (fun _ _ => True) t.work

theorem tasksCommitBalanced_run {p : Pool Operation (Except AccountError Record)}
    (h : TasksCommitBalanced p) (events : List (Event Operation)) :
    TasksCommitBalanced (p.run Operation.serve events) := by
  refine Pool.keeps_run Operation.serve (fun _ => balanced) (fun w _ => w) (fun _ _ _ => True)
    ?_ (fun r => commitsBalanced_serve r {}) h
  intro r past c a b b' answered
  exact ⟨b, b', rfl, answered, rfl⟩

/-- Every event of a pool of operations keeps the tables consistent. -/
theorem Consistent.after {p : Pool Operation (Except AccountError Record)}
    (h : Consistent p.backend.tables) (tasks : TasksCommitBalanced p) (e : Event Operation) :
    Consistent (p.after Operation.serve e).backend.tables := by
  have move := Pool.move_after Operation.serve p e
  generalize p.after Operation.serve e = q at move
  cases move with
  | start r => exact h
  | @turn n t c next a b ht hp answered =>
    -- The task may only commit what is balanced.
    have keeps := tasks t (List.mem_of_getElem? ht)
    rw [hp] at keeps
    obtain ⟨permitted, -⟩ := keeps t.work rfl
    exact Consistent.answer (b := { p.backend with work := t.work }) h permitted answered
  | remove id => exact ⟨h.sound.removeUser id, h.everyUserLinked.removeUser id⟩
  | idle ht hq _ => rwa [hq]

/-- Whatever operations are started, and in whatever order they take their turns, the tables stay
consistent. -/
theorem consistent_run {p : Pool Operation (Except AccountError Record)}
    (h : Consistent p.backend.tables) (tasks : TasksCommitBalanced p)
    (events : List (Event Operation)) :
    Consistent (p.run Operation.serve events).backend.tables := by
  induction events generalizing p with
  | nil => exact h
  | cons e es ih => exact ih (h.after tasks e) (tasksCommitBalanced_run tasks [e])

/-! ## Constraints -/

/-- From empty tables on, after any events each user is found under its own identifier, no two users
share an address, no two links share their user and provider or their person and provider, the user
of every link exists, and every user has a link. -/
theorem constraints_hold (b : Backend) (events : List (Event Operation)) :
    let t := (Pool.run Operation.serve ⟨{ b with tables := {} }, [], []⟩ events).backend.tables
    (∀ u ∈ t.users, t.userById? u.id = some u) ∧
      t.users.Pairwise (fun u v => u.email ≠ v.email) ∧
      t.links.Pairwise (fun l m => (l.userId, l.issuer) ≠ (m.userId, m.issuer)) ∧
      t.links.Pairwise (fun l m => (l.issuer, l.externalId) ≠ (m.issuer, m.externalId)) ∧
      (∀ l ∈ t.links, ∃ u ∈ t.users, u.id = l.userId) ∧
      (∀ u ∈ t.users, ∃ l ∈ t.links, l.userId = u.id) := by
  intro t
  have consistent : Consistent t := by
    refine consistent_run (p := ⟨{ b with tables := {} }, [], []⟩) ?_ (fun _ h => nomatch h) events
    exact ⟨Tables.sound_empty, fun _ h => nomatch h⟩
  obtain ⟨sound, linked⟩ := consistent
  exact ⟨fun u hu => sound.userById?_of_mem hu, sound.distinctEmails, sound.distinctUserIssuers,
    sound.distinctPersons, sound.ownersExist, linked⟩

-- Two persons with one address log in at once, and the late one finds the user of the other.
example :
    let login := Operation.onboard "github" default
    let t := (Pool.run Operation.serve ⟨default, [], []⟩
      ([.start (login ⟨"s", "", "a@x", true, none, none⟩),
        .start (login ⟨"t", "", "a@x", true, none, none⟩), .turn 0, .turn 0, .turn 1, .turn 1]
        ++ List.replicate 9 (.turn 0) ++ List.replicate 12 (.turn 1))).backend.tables
    t.users.length = 1 ∧ t.links.map Link.externalId = ["s"] := by
  decide +kernel

end Account

end FederatedLogin
