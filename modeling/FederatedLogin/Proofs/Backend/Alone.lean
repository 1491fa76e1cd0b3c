import FederatedLogin.Proofs.Backend.Answer

/-!
# Programs that run alone

Where no failure of storage is scripted (`Backend.Quiet`), every call reaches the surroundings.
`Backend.Gives` says that a program that runs alone comes to its end, and what holds of its result
and of the surroundings then. It is proved along the text of the program, with one rule for each
call. A rule leaves open what the surroundings are after the call and says only what they hold
(`Backend.Becomes`). Where failures are scripted, a call is refused if its failure is due
(`gives_of_dueFault`).
-/

namespace FederatedLogin.Backend

variable {α β : Type} {b b' : Backend} {c : Call}

/-! ## Runs -/

/-- The program comes to its end, with a result and surroundings that satisfy the condition. -/
def Gives (b : Backend) (p : Service α) (post : α → Backend → Prop) : Prop :=
  ∃ a b', b.run p = (.ok a, b') ∧ post a b'

theorem gives_pure {post : α → Backend → Prop} {a : α} (h : post a b) :
    b.Gives (pure a) post := ⟨a, b, rfl, h⟩

theorem Gives.mono {p : Service α} {post post' : α → Backend → Prop} (h : b.Gives p post)
    (le : ∀ a b', post a b' → post' a b') : b.Gives p post' := by
  obtain ⟨a, b', run, hp⟩ := h
  exact ⟨a, b', run, le a b' hp⟩

/-- A program runs in front of the one that goes on with its result. -/
theorem run_bind {p : Service α} {f : α → Service β} {a : α} (h : b.run p = (.ok a, b')) :
    b.run (p >>= f) = b'.run (f a) := by
  induction p generalizing b with
  | done a' => cases h; rfl
  | ask c next ih =>
    rw [Program.ask_bind]
    cases ha : b.answer c with
    | error halt =>
      simp only [run, ha] at h
      cases h
    | ok answered =>
      simp only [run, ha] at h ⊢
      exact ih answered.1 h

/-- A program that does not come to its end keeps others from going on with its result. -/
theorem run_bind_of_halt {p : Service α} {f : α → Service β} {halt : Halt}
    (h : b.run p = (.error halt, b')) : b.run (p >>= f) = (.error halt, b') := by
  induction p generalizing b with
  | done a => cases h
  | ask c next ih =>
    rw [Program.ask_bind]
    cases ha : b.answer c with
    | error halt' =>
      simp only [run, ha] at h ⊢
      cases h
      rfl
    | ok answered =>
      simp only [run, ha] at h ⊢
      exact ih answered.1 h

/-- A program that asks goes on with the answer. -/
theorem run_ask {a : c.Answer} (h : b.answer c = .ok (a, b')) (next : c.Answer → Service α) :
    b.run (.ask c next) = b'.run (next a) := by
  rw [run, h]

/-- A call that is answered gives its answer. -/
theorem run_call {a : c.Answer} (h : b.answer c = .ok (a, b')) : b.run (call c) = (.ok a, b') :=
  run_ask h .done

/-- A call that is not answered comes to no end, and is written down. -/
theorem run_call_of_halt {halt : Halt} (h : b.answer c = .error halt) :
    b.run (call c) = (.error halt, b.record c) := by
  show b.run (.ask c .done) = _
  unfold run
  rw [h]

/-- Who goes on with the result of a program comes to an end after the program did. -/
theorem exists_of_run_bind {p : Service α} {f : α → Service β} {r : β}
    (h : b.run (p >>= f) = (.ok r, b')) :
    ∃ a b₁, b.run p = (.ok a, b₁) ∧ b₁.run (f a) = (.ok r, b') := by
  cases hp : b.run p with
  | mk result b₁ =>
    cases result with
    | error halt =>
      rw [run_bind_of_halt hp] at h
      cases h
    | ok a =>
      rw [run_bind hp] at h
      exact ⟨a, b₁, rfl, h⟩

/-- A call that gave something was answered with it. -/
theorem answer_of_run_call {a : c.Answer} (h : b.run (call c) = (.ok a, b')) :
    b.answer c = .ok (a, b') := by
  cases ha : b.answer c with
  | error halt =>
    rw [run_call_of_halt ha] at h
    cases h
  | ok answered =>
    rw [run_call ha] at h
    cases h
    rfl

/-- What a program gives is what the rest of it gives. -/
theorem Gives.bind {p : Service α} {f : α → Service β} {post : β → Backend → Prop}
    (h : b.Gives p fun a b' => b'.Gives (f a) post) : b.Gives (p >>= f) post := by
  obtain ⟨a, b₁, run₁, r, b₂, run₂, hp⟩ := h
  exact ⟨r, b₂, (run_bind run₁).trans run₂, hp⟩

/-- A function of the result is applied when the program is done. -/
theorem Gives.map {p : Service α} {g : α → β} {post : β → Backend → Prop}
    (h : b.Gives p fun a => post (g a)) : b.Gives (g <$> p) post :=
  Gives.bind (h.mono fun _ _ => gives_pure)

/-! ## Calls -/

/-- The second surroundings come after the first ones, hold the tables and the unit of work, and
have made the given number of identifiers for users. No failure is scripted in them. -/
structure Becomes (b : Backend) (t : Tables) (w : UnitOfWork) (n : Nat) (b' : Backend) : Prop where
  quiet : b'.Quiet
  tables : b'.tables = t
  work : b'.work = w
  userId : b'.userId = b.userId
  users : b'.users = b.users + n

/-- What holds of surroundings after two stretches of a program is put together from both. -/
theorem Becomes.trans {t t' : Tables} {w w' : UnitOfWork} {n m : Nat} {b₁ b₂ b₃ : Backend}
    (h : b₁.Becomes t w n b₂) (h' : b₂.Becomes t' w' m b₃) : b₁.Becomes t' w' (n + m) b₃ where
  quiet := h'.quiet
  tables := h'.tables
  work := h'.work
  userId := h'.userId.trans h.userId
  users := by rw [h'.users, h.users, Nat.add_assoc]

/-- A call gives what the surroundings answer to it, if no failure is scripted. -/
theorem gives_call {post : c.Answer → Backend → Prop} {a : c.Answer} (quiet : b.Quiet)
    (h : (b.record c).perform c = .ok (a, b')) (hp : post a b') : b.Gives (call c) post :=
  ⟨a, b', run_call ((answer_of_quiet quiet c).trans h), hp⟩

/-- A call that is none on users and links reaches the surroundings. -/
theorem gives_of_point? {post : c.Answer → Backend → Prop} {a : c.Answer} (hc : point? c = none)
    (h : (b.record c).perform c = .ok (a, b')) (hp : post a b') : b.Gives (call c) post :=
  ⟨a, b', run_call ((answer_of_point? b hc).trans h), hp⟩

/-- A call whose failure is due is refused. -/
theorem gives_of_dueFault {post : c.Answer → Backend → Prop} {a : c.Answer} {e : StorageError}
    (due : b.dueFault c = some e) (refused : refusal? c e = some a) (hp : post a (b.record c)) :
    b.Gives (call c) post :=
  ⟨a, b.record c, run_call (answer_of_dueFault due refused), hp⟩

/-- A call of which no failure is due reaches the surroundings. -/
theorem gives_of_dueFault_none {post : c.Answer → Backend → Prop} {a : c.Answer}
    (works : b.dueFault c = none) (h : (b.record c).perform c = .ok (a, b')) (hp : post a b') :
    b.Gives (call c) post :=
  ⟨a, b', run_call ((answer_of_dueFault_none works).trans h), hp⟩

/-- The clock tells the time. -/
theorem gives_now {post : Time.Instant → Backend → Prop} (quiet : b.Quiet)
    (h : ∀ b', b.Becomes b.tables b.work 0 b' → post b.clock b') : b.Gives (call .now) post :=
  gives_call quiet rfl (h _ ⟨quiet.record .now, rfl, rfl, rfl, rfl⟩)

/-- A warning changes nothing that is stored. -/
theorem gives_warn {post : Unit → Backend → Prop} {text : String} (quiet : b.Quiet)
    (h : ∀ b', b.Becomes b.tables b.work 0 b' → post () b') : b.Gives (warn text) post :=
  gives_call quiet rfl (h _ ⟨quiet.record (.log .warning text), rfl, rfl, rfl, rfl⟩)

/-- A look for a user by identifier is answered from the tables. -/
theorem gives_userById {id : Uuid} {post : Except StorageError User → Backend → Prop}
    (quiet : b.Quiet) (h : ∀ b', b.Becomes b.tables b.work 0 b' →
      post (found (b.tables.userById? id)) b') :
    b.Gives (call (.userById id)) post :=
  gives_call quiet rfl (h _ ⟨quiet.record (.userById id), rfl, rfl, rfl, rfl⟩)

/-- A look for a user by address is answered from the tables. -/
theorem gives_userByEmail {email : String} {post : Except StorageError User → Backend → Prop}
    (quiet : b.Quiet) (h : ∀ b', b.Becomes b.tables b.work 0 b' →
      post (found (b.tables.userByEmail? email)) b') :
    b.Gives (call (.userByEmail email)) post :=
  gives_call quiet rfl (h _ ⟨quiet.record (.userByEmail email), rfl, rfl, rfl, rfl⟩)

/-- A look for a link is answered from the tables. -/
theorem gives_linkOf {id : Uuid} {issuer : String}
    {post : Except StorageError Link → Backend → Prop} (quiet : b.Quiet)
    (h : ∀ b', b.Becomes b.tables b.work 0 b' → post (found (b.tables.link? id issuer)) b') :
    b.Gives (call (.linkOf id issuer)) post :=
  gives_call quiet rfl (h _ ⟨quiet.record (.linkOf id issuer), rfl, rfl, rfl, rfl⟩)

/-- An identifier for a user is the next one that was not made yet. -/
theorem gives_newUserId {post : Uuid → Backend → Prop} (quiet : b.Quiet)
    (h : ∀ b', b.Becomes b.tables b.work 1 b' → post (b.userId b.users) b') :
    b.Gives (call .newUserId) post :=
  gives_call quiet rfl (h _ ⟨quiet.record .newUserId, rfl, rfl, rfl, rfl⟩)

/-- Tokens of a link that is stored are stored. -/
theorem perform_updateLink {l : Link} {t : Tables} (h : b.tables.updateLink l = .ok t) :
    (b.record (.updateLink l)).perform (.updateLink l)
      = .ok (.ok (), { b.record (.updateLink l) with tables := t }) := by
  simp only [perform, updateLink, record_tables, h]
  rfl

/-- Storing the tokens of a link changes the tables at once, outside of any unit of work. -/
theorem gives_updateLink {l : Link} {t : Tables} {post : Except StorageError Unit → Backend → Prop}
    (quiet : b.Quiet) (ht : b.tables.updateLink l = .ok t)
    (h : ∀ b', b.Becomes t b.work 0 b' → post (.ok ()) b') :
    b.Gives (call (.updateLink l)) post :=
  gives_call quiet (perform_updateLink ht)
    (h _ ⟨quiet.record (.updateLink l), rfl, rfl, rfl, rfl⟩)

/-- A unit of work begins empty. -/
theorem gives_begin {post : Except StorageError Unit → Backend → Prop} (quiet : b.Quiet)
    (h : ∀ b', b.Becomes b.tables {} 0 b' → post (.ok ()) b') : b.Gives (call .begin) post :=
  gives_call quiet rfl (h _ ⟨quiet.record .begin, rfl, rfl, rfl, rfl⟩)

/-- A user who is inserted goes to the end of the unit of work. -/
theorem gives_insertUser {u : User} {post : Except StorageError Unit → Backend → Prop}
    (quiet : b.Quiet) (notFinished : b.work.finished = false)
    (h : ∀ b', b.Becomes b.tables { b.work with users := b.work.users ++ [u] } 0 b' →
      post (.ok ()) b') : b.Gives (call (.insertUser u)) post := by
  have perform : (b.record (.insertUser u)).perform (.insertUser u) = .ok (.ok (),
      { b.record (.insertUser u) with
        work := { b.work with users := b.work.users ++ [u] } }) := by
    show Except.ok (Backend.insert _ (b.work.insertUser u)) = _
    rw [UnitOfWork.insertUser_of_not_finished notFinished]
    rfl
  exact gives_call quiet perform (h _ ⟨quiet.record (.insertUser u), rfl, rfl, rfl, rfl⟩)

/-- A link that is inserted goes to the end of the unit of work. -/
theorem gives_insertLink {l : Link} {post : Except StorageError Unit → Backend → Prop}
    (quiet : b.Quiet) (notFinished : b.work.finished = false)
    (h : ∀ b', b.Becomes b.tables { b.work with links := b.work.links ++ [l] } 0 b' →
      post (.ok ()) b') : b.Gives (call (.insertLink l)) post := by
  have perform : (b.record (.insertLink l)).perform (.insertLink l) = .ok (.ok (),
      { b.record (.insertLink l) with
        work := { b.work with links := b.work.links ++ [l] } }) := by
    show Except.ok (Backend.insert _ (b.work.insertLink l)) = _
    rw [UnitOfWork.insertLink_of_not_finished notFinished]
    rfl
  exact gives_call quiet perform (h _ ⟨quiet.record (.insertLink l), rfl, rfl, rfl, rfl⟩)

/-- A commit adds the rows of the unit of work, or says why they cannot be added. -/
theorem gives_commit {post : Except StorageError Unit → Backend → Prop}
    (quiet : b.Quiet) (notFinished : b.work.finished = false)
    (added : ∀ t b', b.work.apply b.tables = .ok t →
      b.Becomes t { b.work with finished := true } 0 b' → post (.ok ()) b')
    (refused : ∀ e b', b.work.apply b.tables = .error e →
      b.Becomes b.tables { b.work with finished := true } 0 b' → post (.error e) b') :
    b.Gives (call .commit) post := by
  have perform : (b.record .commit).perform .commit = .ok (b.record .commit).commit := rfl
  rw [commit_eq] at perform
  simp only [record_work, record_tables, notFinished, Bool.false_eq_true, if_false] at perform
  cases ha : b.work.apply b.tables with
  | ok t =>
    rw [ha] at perform
    exact gives_call quiet perform (added t _ ha ⟨quiet.record .commit, rfl, rfl, rfl, rfl⟩)
  | error e =>
    rw [ha] at perform
    exact gives_call quiet perform (refused e _ ha ⟨quiet.record .commit, rfl, rfl, rfl, rfl⟩)

end FederatedLogin.Backend
