import FederatedLogin.Account.Onboarding
import FederatedLogin.Proofs.Backend.Alone
import FederatedLogin.Proofs.Backend.Pool

/-!
# Transactions

A transaction adds all rows that its work inserts, or none. The rows are those of the inserts that
the text of the work makes (`MakesInserts`), and running the work puts them into the unit of work
(`MakesInserts.gives`). Whether the commit accepts them does not depend on their order: they are
checked one by one against a growing copy of the tables, but all of them are accepted exactly when
they and the rows of the tables together satisfy the constraints (`exists_apply_iff`), and that
condition (`Tables.Admits`) knows no order. Until the commit nothing is seen of a transaction
(`untouched_run`), and after it the unit of work accepts nothing (`gives_performAll`). All this is
`inTransaction_atomic`.
-/

namespace FederatedLogin

/-! ## Rows that go together -/

namespace Tables

/-- The rows of the tables and the new rows together satisfy the constraints. -/
structure Admits (t : Tables) (users : List User) (links : List Link) : Prop where
  distinctIds : (t.users ++ users).Pairwise fun u v => u.id ≠ v.id
  distinctEmails : (t.users ++ users).Pairwise fun u v => u.email ≠ v.email
  ownersExist : ∀ l ∈ links, ∃ u ∈ t.users ++ users, u.id = l.userId
  distinctUserIssuers :
    (t.links ++ links).Pairwise fun l m => (l.userId, l.issuer) ≠ (m.userId, m.issuer)
  distinctPersons :
    (t.links ++ links).Pairwise fun l m => (l.issuer, l.externalId) ≠ (m.issuer, m.externalId)

variable {t : Tables} {us vs : List User} {ls ms : List Link}

/-- Nothing changes if the new rows come in another order. -/
theorem Admits.perm (h : t.Admits us ls) (users : us.Perm vs) (links : ls.Perm ms) :
    t.Admits vs ms where
  distinctIds := (users.append_left t.users).pairwise h.distinctIds Ne.symm
  distinctEmails := (users.append_left t.users).pairwise h.distinctEmails Ne.symm
  ownersExist l hl := by
    obtain ⟨u, hu, e⟩ := h.ownersExist l (links.mem_iff.2 hl)
    exact ⟨u, (users.append_left t.users).mem_iff.1 hu, e⟩
  distinctUserIssuers := (links.append_left t.links).pairwise h.distinctUserIssuers Ne.symm
  distinctPersons := (links.append_left t.links).pairwise h.distinctPersons Ne.symm

/-- If adding a row tests the row against the tables, and the test of a later row only notices the
row by a comparison with it, then rows can be added one by one exactly when each passes the test
at the start and each two of them compare well. -/
theorem exists_foldlM_iff {ρ : Type} {add : Tables → ρ → Except StorageError Tables}
    (put : Tables → ρ → Tables) (Fits : Tables → ρ → Prop) {Apart : ρ → ρ → Prop}
    (added : ∀ t r t', add t r = .ok t' ↔ Fits t r ∧ t' = put t r)
    (noticed : ∀ t r s, Fits (put t r) s ↔ Fits t s ∧ Apart r s) (rows : List ρ) (t : Tables) :
    (∃ t', rows.foldlM add t = .ok t') ↔ (∀ r ∈ rows, Fits t r) ∧ rows.Pairwise Apart := by
  induction rows generalizing t with
  | nil => exact ⟨fun _ => ⟨nofun, .nil⟩, fun _ => ⟨t, rfl⟩⟩
  | cons r rows ih =>
    have first : (∃ t', (r :: rows).foldlM add t = .ok t') ↔
        Fits t r ∧ ∃ t', rows.foldlM add (put t r) = .ok t' := by
      constructor
      · rintro ⟨t', h⟩
        rw [List.foldlM_cons] at h
        obtain ⟨t₁, h₁, h₂⟩ := exists_of_bind_eq_ok h
        obtain ⟨fits, rfl⟩ := (added t r t₁).1 h₁
        exact ⟨fits, t', h₂⟩
      · rintro ⟨fits, t', h⟩
        refine ⟨t', ?_⟩
        rw [List.foldlM_cons, (added t r _).2 ⟨fits, rfl⟩]
        exact h
    rw [first, ih, List.forall_mem_cons, List.pairwise_cons]
    simp only [noticed]
    constructor
    · rintro ⟨fits, others, apart⟩
      exact ⟨⟨fits, fun s hs => (others s hs).1⟩, fun s hs => (others s hs).2, apart⟩
    · rintro ⟨⟨fits, others⟩, noticed, apart⟩
      exact ⟨fits, fun s hs => ⟨others s hs, noticed s hs⟩, apart⟩

theorem exists_addUsers_iff (t : Tables) (us : List User) :
    (∃ t', us.foldlM addUser t = .ok t') ↔
      (∀ u ∈ us, ¬ t.HasUser u.id ∧ ¬ t.HasEmail u.email) ∧
        us.Pairwise fun u v => u.id ≠ v.id ∧ u.email ≠ v.email := by
  refine exists_foldlM_iff (fun t u => { t with users := t.users ++ [u] })
    (fun t u => ¬ t.HasUser u.id ∧ ¬ t.HasEmail u.email) ?_ ?_ us t
  · intro t u t'
    rw [addUser_eq_ok_iff, and_assoc]
  · intro t u v
    have ids : HasUser { t with users := t.users ++ [u] } v.id ↔ t.HasUser v.id ∨ u.id = v.id := by
      simp [HasUser, or_and_right, exists_or]
    have emails : HasEmail { t with users := t.users ++ [u] } v.email ↔
        t.HasEmail v.email ∨ u.email = v.email := by
      simp [HasEmail, or_and_right, exists_or]
    rw [ids, emails, not_or, not_or, and_and_and_comm]

theorem exists_addLinks_iff (t : Tables) (ls : List Link) :
    (∃ t', ls.foldlM addLink t = .ok t') ↔
      (∀ l ∈ ls, t.HasUser l.userId ∧ ¬ t.HasLink l.userId l.issuer ∧
        ¬ t.HasPerson l.issuer l.externalId) ∧
        ls.Pairwise fun l m => (l.userId, l.issuer) ≠ (m.userId, m.issuer) ∧
          (l.issuer, l.externalId) ≠ (m.issuer, m.externalId) := by
  refine exists_foldlM_iff (fun t l => { t with links := t.links ++ [l] })
    (fun t l => t.HasUser l.userId ∧ ¬ t.HasLink l.userId l.issuer ∧
      ¬ t.HasPerson l.issuer l.externalId) ?_ ?_ ls t
  · intro t l t'
    rw [addLink_eq_ok_iff, and_assoc, and_assoc]
  · intro t l m
    have owner : HasUser { t with links := t.links ++ [l] } m.userId ↔ t.HasUser m.userId := Iff.rfl
    have keys : HasLink { t with links := t.links ++ [l] } m.userId m.issuer ↔
        t.HasLink m.userId m.issuer ∨ (l.userId, l.issuer) = (m.userId, m.issuer) := by
      simp [HasLink, or_and_right, exists_or]
    have persons : HasPerson { t with links := t.links ++ [l] } m.issuer m.externalId ↔
        t.HasPerson m.issuer m.externalId ∨
          (l.issuer, l.externalId) = (m.issuer, m.externalId) := by
      simp [HasPerson, or_and_right, exists_or]
    rw [owner, keys, persons, not_or, not_or, and_and_and_comm]
    simp only [ne_eq, and_assoc]

/-- Rows that come after others differ from each of them, if those differ from each other. -/
theorem pairwise_append_ne_iff {ρ κ : Type} {rows : List ρ} (key : ρ → κ) (new : List ρ)
    (distinct : rows.Pairwise fun r s => key r ≠ key s) :
    ((rows ++ new).Pairwise fun r s => key r ≠ key s) ↔
      (new.Pairwise fun r s => key r ≠ key s) ∧ ∀ s ∈ new, ¬ ∃ r ∈ rows, key r = key s := by
  rw [List.pairwise_append]
  constructor
  · rintro ⟨-, among, apart⟩
    exact ⟨among, fun s hs ⟨r, hr, e⟩ => apart r hr s hs e⟩
  · rintro ⟨among, apart⟩
    exact ⟨distinct, among, fun r hr s hs e => apart s hs ⟨r, hr, e⟩⟩

/-- The rows of a unit of work can be added to sound tables exactly when all rows together satisfy
the constraints. -/
theorem exists_apply_iff (sound : t.Sound) (w : UnitOfWork) :
    (∃ t', w.apply t = .ok t') ↔ t.Admits w.users w.links := by
  -- The links meet tables to which all users have been added.
  have parts : (∃ t', w.apply t = .ok t') ↔ (∃ t₁, w.users.foldlM addUser t = .ok t₁) ∧
      ∃ t', w.links.foldlM addLink { t with users := t.users ++ w.users } = .ok t' := by
    constructor
    · rintro ⟨t', h⟩
      obtain ⟨t₁, h₁, h₂⟩ := exists_of_bind_eq_ok h
      obtain ⟨hu, hl⟩ := rows_of_addUsers h₁
      refine ⟨⟨t₁, h₁⟩, t', ?_⟩
      rwa [← hu, ← hl]
    · rintro ⟨⟨t₁, h₁⟩, t', h₂⟩
      obtain ⟨hu, hl⟩ := rows_of_addUsers h₁
      refine ⟨t', ?_⟩
      unfold UnitOfWork.apply
      rw [h₁]
      rwa [← hu, ← hl] at h₂
  rw [parts, exists_addUsers_iff, exists_addLinks_iff]
  rw [List.pairwise_and_iff, List.pairwise_and_iff]
  have ids := pairwise_append_ne_iff User.id w.users sound.distinctIds
  have emails := pairwise_append_ne_iff User.email w.users sound.distinctEmails
  have keys := pairwise_append_ne_iff (fun l => (l.userId, l.issuer)) w.links
    sound.distinctUserIssuers
  have persons := pairwise_append_ne_iff (fun l => (l.issuer, l.externalId)) w.links
    sound.distinctPersons
  constructor
  · rintro ⟨⟨newUsers, idsApart, emailsApart⟩, newLinks, keysApart, personsApart⟩
    refine ⟨ids.2 ⟨idsApart, fun u hu => (newUsers u hu).1⟩,
      emails.2 ⟨emailsApart, fun u hu => (newUsers u hu).2⟩, fun l hl => (newLinks l hl).1,
      keys.2 ⟨keysApart, ?_⟩, persons.2 ⟨personsApart, ?_⟩⟩
    · rintro l hl ⟨m, hm, e⟩
      exact (newLinks l hl).2.1 ⟨m, hm, Prod.mk.inj e⟩
    · rintro l hl ⟨m, hm, e⟩
      exact (newLinks l hl).2.2 ⟨m, hm, Prod.mk.inj e⟩
  · intro admits
    obtain ⟨idsApart, idsNew⟩ := ids.1 admits.distinctIds
    obtain ⟨emailsApart, emailsNew⟩ := emails.1 admits.distinctEmails
    obtain ⟨keysApart, keysNew⟩ := keys.1 admits.distinctUserIssuers
    obtain ⟨personsApart, personsNew⟩ := persons.1 admits.distinctPersons
    refine ⟨⟨fun u hu => ⟨idsNew u hu, emailsNew u hu⟩, idsApart, emailsApart⟩,
      fun l hl => ⟨admits.ownersExist l hl, ?_, ?_⟩, keysApart, personsApart⟩
    · rintro ⟨m, hm, e, e'⟩
      exact keysNew l hl ⟨m, hm, Prod.ext e e'⟩
    · rintro ⟨m, hm, e, e'⟩
      exact personsNew l hl ⟨m, hm, Prod.ext e e'⟩

end Tables

/-! ## Inserts -/

/-- The call adds a row to the unit of work. -/
def Call.inserts : Call → Bool
  | .insertUser _ | .insertLink _ => true
  | _ => false

/-- The call is one of a transaction that inserts rows. -/
def Call.transacts : Call → Bool
  | .begin | .commit => true
  | c => c.inserts

/-- The user that a call inserts. -/
def Call.user? : Call → Option User
  | .insertUser user => some user
  | _ => none

/-- The link that a call inserts. -/
def Call.link? : Call → Option Link
  | .insertLink link => some link
  | _ => none

namespace Account

open Backend

variable {α β : Type} {b : Backend}

/-- The users that some calls insert, in the order of the calls. -/
def insertedUsers (calls : List Call) : List User := calls.filterMap Call.user?

/-- The links that some calls insert, in the order of the calls. -/
def insertedLinks (calls : List Call) : List Link := calls.filterMap Call.link?

/-- The program makes these inserts, one after the other, and ends with the result, when each of
them is accepted. -/
inductive MakesInserts : Service α → List Call → α → Prop
  | done (a : α) : MakesInserts (.done a) [] a
  | insertUser {user : User} {next : Except StorageError Unit → Service α} {calls : List Call}
      {a : α} : MakesInserts (next (.ok ())) calls a →
      MakesInserts (.ask (.insertUser user) next) (.insertUser user :: calls) a
  | insertLink {link : Link} {next : Except StorageError Unit → Service α} {calls : List Call}
      {a : α} : MakesInserts (next (.ok ())) calls a →
      MakesInserts (.ask (.insertLink link) next) (.insertLink link :: calls) a

/-- The text of a program says which inserts it makes, and what its result is. -/
theorem MakesInserts.unique {work : Service α} {calls calls' : List Call} {a a' : α}
    (made : MakesInserts work calls a) (made' : MakesInserts work calls' a') :
    calls = calls' ∧ a = a' := by
  induction made generalizing calls' with
  | done a =>
    cases made'
    exact ⟨rfl, rfl⟩
  | insertUser _ ih =>
    cases made' with
    | insertUser rest =>
      obtain ⟨rfl, rfl⟩ := ih rest
      exact ⟨rfl, rfl⟩
  | insertLink _ ih =>
    cases made' with
    | insertLink rest =>
      obtain ⟨rfl, rfl⟩ := ih rest
      exact ⟨rfl, rfl⟩

/-- A program that only inserts makes its inserts in one order, as long as they are accepted. -/
theorem exists_makesInserts {work : Service α} (inserts : work.Asks Call.inserts) :
    ∃ calls a, MakesInserts work calls a := by
  induction work with
  | done a => exact ⟨[], a, .done a⟩
  | ask c next ih =>
    obtain ⟨insert, rest⟩ := inserts
    cases c with
    | insertUser user =>
      obtain ⟨calls, a, made⟩ := ih (.ok ()) (rest (.ok ()))
      exact ⟨.insertUser user :: calls, a, .insertUser made⟩
    | insertLink link =>
      obtain ⟨calls, a, made⟩ := ih (.ok ()) (rest (.ok ()))
      exact ⟨.insertLink link :: calls, a, .insertLink made⟩
    | _ => cases insert

/-- Inserts go to the unit of work, in the order in which they are made, and leave the tables
alone. -/
theorem MakesInserts.gives {work : Service α} {calls : List Call} {a : α}
    (made : MakesInserts work calls a) (quiet : b.Quiet) (notFinished : b.work.finished = false) :
    b.Gives work fun r b' => r = a ∧ b.Becomes b.tables
      { b.work with
        users := b.work.users ++ insertedUsers calls
        links := b.work.links ++ insertedLinks calls } 0 b' := by
  induction made generalizing b with
  | done a =>
    refine gives_pure ⟨rfl, quiet, rfl, ?_, rfl, rfl⟩
    simp only [insertedUsers, insertedLinks, List.filterMap_nil, List.append_nil]
  | @insertUser user next calls a _ ih =>
    refine Gives.bind (p := call (.insertUser user))
      (gives_insertUser quiet notFinished fun b₁ first => ?_)
    refine (ih first.quiet (by rw [first.work]; exact notFinished)).mono ?_
    rintro _ b₂ ⟨rfl, others⟩
    rw [first.tables, first.work, List.append_assoc] at others
    exact ⟨rfl, first.trans others⟩
  | @insertLink link next calls a _ ih =>
    refine Gives.bind (p := call (.insertLink link))
      (gives_insertLink quiet notFinished fun b₁ first => ?_)
    refine (ih first.quiet (by rw [first.work]; exact notFinished)).mono ?_
    rintro _ b₂ ⟨rfl, others⟩
    rw [first.tables, first.work, List.append_assoc] at others
    exact ⟨rfl, first.trans others⟩

/-! ## Outcomes -/

/-- The result of a transaction and the tables after it, from the tables before it, the rows that
were inserted, and the result of the work. -/
inductive Transacts (t : Tables) (users : List User) (links : List Link) :
    Except StorageError α → Except StorageError α → Tables → Prop
  /-- The work fails, and with it the transaction. -/
  | failed (e : StorageError) : Transacts t users links (.error e) (.error e) t
  /-- All rows are added. -/
  | added (a : α) : t.Admits users links →
      Transacts t users links (.ok a) (.ok a)
        { users := t.users ++ users, links := t.links ++ links }
  /-- The commit refuses the rows. -/
  | refused (a : α) (e : StorageError) : ¬ t.Admits users links →
      Transacts t users links (.ok a) (.error e) t

/-- A transaction commits the rows that its work inserts, unless the work fails, and then its unit
of work is finished. -/
theorem gives_transaction {work : Service (Except StorageError α)} {calls : List Call}
    {r : Except StorageError α} (made : MakesInserts work calls r) (quiet : b.Quiet)
    (sound : b.tables.Sound) :
    b.Gives (inTransaction work) fun s b' =>
      Transacts b.tables (insertedUsers calls) (insertedLinks calls) r s b'.tables ∧
        b'.Quiet ∧ (r.isOk → b'.work.finished = true) := by
  obtain ⟨began, b₀, run₀, rfl, open₀⟩ : b.Gives (call .begin) fun r b₀ =>
      r = .ok () ∧ b.Becomes b.tables {} 0 b₀ := gives_begin quiet fun b₀ h => ⟨rfl, h⟩
  obtain ⟨r', b₁, run₁, rfl, did⟩ := made.gives open₀.quiet (by rw [open₀.work])
  have did := open₀.trans did
  rw [open₀.tables, open₀.work] at did
  refine Gives.bind ⟨.ok (), b₀, run₀, Gives.bind ⟨r', b₁, run₁, ?_⟩⟩
  -- The unit of work was empty when the work began.
  have users : b₁.work.users = insertedUsers calls := by rw [did.work]; rfl
  have links : b₁.work.links = insertedLinks calls := by rw [did.work]; rfl
  have admits := Tables.exists_apply_iff sound b₁.work
  rw [users, links] at admits
  cases r' with
  | error e =>
    have failed : Transacts b.tables (insertedUsers calls) (insertedLinks calls)
        (.error e : Except StorageError α) (.error e) b₁.tables := by
      rw [did.tables]
      exact .failed e
    exact gives_pure ⟨failed, did.quiet, nofun⟩
  | ok a =>
    refine Gives.bind (gives_commit did.quiet (by rw [did.work]) ?_ ?_)
    · intro t b₂ applied came
      rw [did.tables] at applied
      obtain ⟨users', links'⟩ := Tables.rows_of_apply applied
      have rows : t = { users := b.tables.users ++ insertedUsers calls
                        links := b.tables.links ++ insertedLinks calls } := by
        rw [← users, ← links, ← users', ← links']
      refine gives_pure ⟨?_, came.quiet, fun _ => by rw [came.work]⟩
      rw [came.tables, rows]
      exact .added a (admits.1 ⟨t, applied⟩)
    · intro e b₂ refused came
      rw [did.tables] at refused came
      refine gives_pure ⟨?_, came.quiet, fun _ => by rw [came.work]⟩
      rw [came.tables]
      refine .refused a e fun h => ?_
      obtain ⟨t, applied⟩ := admits.2 h
      rw [refused] at applied
      cases applied

/-- Nobody can tell from the result and the tables in which order the rows were inserted. -/
theorem Transacts.perm {t t₁ t₂ : Tables} {us vs : List User} {ls ms : List Link} {a₁ : α} {a₂ : β}
    {s₁ : Except StorageError α} {s₂ : Except StorageError β}
    (h₁ : Transacts t us ls (.ok a₁) s₁ t₁) (h₂ : Transacts t vs ms (.ok a₂) s₂ t₂)
    (users : us.Perm vs) (links : ls.Perm ms) :
    s₁.isOk = s₂.isOk ∧ t₁.users.Perm t₂.users ∧ t₁.links.Perm t₂.links := by
  cases h₁ with
  | added _ admits =>
    cases h₂ with
    | added _ _ => exact ⟨rfl, users.append_left _, links.append_left _⟩
    | refused _ _ not => exact absurd (admits.perm users links) not
  | refused _ _ not =>
    cases h₂ with
    | added _ admits => exact absurd (admits.perm users.symm links.symm) not
    | refused _ _ _ => exact ⟨rfl, .refl _, .refl _⟩

/-! ## After the commit -/

/-- What can be done with a unit of work. -/
inductive Step where
  | insertUser (user : User)
  | insertLink (link : Link)
  | commit

/-- Does something with the unit of work. -/
def Step.perform : Step → Service (Except StorageError Unit)
  | insertUser user => call (.insertUser user)
  | insertLink link => call (.insertLink link)
  | commit => call .commit

/-- Does one thing after the other, and gives all results. -/
def performAll : List Step → Service (List (Except StorageError Unit))
  | [] => pure []
  | step :: steps => do
    let result ← step.perform
    let results ← performAll steps
    pure (result :: results)

/-- A finished unit of work accepts nothing, and what is tried changes nothing. -/
theorem gives_perform (step : Step) (quiet : b.Quiet) (finished : b.work.finished = true) :
    b.Gives step.perform fun r b' =>
      r = .error .transactionClosed ∧ b.Becomes b.tables b.work 0 b' := by
  have becomes (c : Call) : b.Becomes b.tables b.work 0 (b.record c) :=
    ⟨quiet.record c, rfl, rfl, rfl, rfl⟩
  cases step with
  | insertUser u =>
    refine gives_call quiet ?_ ⟨rfl, becomes (.insertUser u)⟩
    show Except.ok (Backend.insert _ (b.work.insertUser u)) = _
    rw [UnitOfWork.insertUser, if_pos finished]
    rfl
  | insertLink l =>
    refine gives_call quiet ?_ ⟨rfl, becomes (.insertLink l)⟩
    show Except.ok (Backend.insert _ (b.work.insertLink l)) = _
    rw [UnitOfWork.insertLink, if_pos finished]
    rfl
  | commit =>
    refine gives_call quiet ?_ ⟨rfl, becomes .commit⟩
    show Except.ok (b.record .commit).commit = _
    rw [commit_eq, record_work, if_pos finished]
    rfl

theorem gives_performAll (steps : List Step) (quiet : b.Quiet)
    (finished : b.work.finished = true) :
    b.Gives (performAll steps) fun rs b' =>
      rs = steps.map (fun _ => .error .transactionClosed) ∧ b.Becomes b.tables b.work 0 b' := by
  induction steps generalizing b with
  | nil => exact gives_pure ⟨rfl, quiet, rfl, rfl, rfl, rfl⟩
  | cons step steps ih =>
    refine Gives.bind ((gives_perform step quiet finished).mono ?_)
    rintro _ b₁ ⟨rfl, first⟩
    refine Gives.bind ((ih first.quiet (first.work ▸ finished)).mono ?_)
    rintro _ b₂ ⟨rfl, others⟩
    rw [first.tables, first.work] at others
    exact gives_pure ⟨rfl, first.trans others⟩

/-! ## Before the commit -/

theorem asks_inTransaction {work : Service (Except StorageError α)}
    (inserts : work.Asks Call.inserts) : (inTransaction work).Asks Call.transacts := by
  have asks : work.Asks Call.transacts := inserts.mono fun c h => by
    cases c <;> first | rfl | cases h
  refine (Program.asks_question rfl).bind fun began => ?_
  split
  · exact Program.asks_done _
  · refine asks.bind fun result => ?_
    split
    · exact Program.asks_done _
    · refine (Program.asks_question rfl).bind fun committed => ?_
      split <;> exact Program.asks_done _

/-- No task of the pool has committed. -/
def Uncommitted {ρ : Type} (p : Pool ρ α) : Prop := ∀ t ∈ p.tasks, ∀ x ∈ t.past, x.call ≠ .commit

theorem Uncommitted.of_extends {ρ : Type} {p q : Pool ρ α} (h : Uncommitted q)
    (e : p.Extends q) : Uncommitted p := by
  intro t ht x hx
  obtain ⟨n, hn⟩ := List.mem_iff_getElem?.1 ht
  obtain ⟨t', ht', continues⟩ := e n t hn
  exact h t' (List.mem_of_getElem? ht') x (continues.past.subset hx)

/-- As long as no transaction has committed, the tables are as they were at the start. -/
theorem untouched_run {ρ : Type} {serve : ρ → Service α} {p : Pool ρ α} {events : List (Event ρ)}
    (transacts : ∀ r, (serve r).Asks Call.transacts)
    (asks : ∀ t ∈ p.tasks, t.program.Asks Call.transacts)
    (stay : ∀ id, Event.removeUser id ∉ events) (uncommitted : Uncommitted (p.run serve events)) :
    (p.run serve events).backend.tables = p.backend.tables := by
  refine (Pool.run_induction serve (motive := fun q =>
    (∀ t ∈ q.tasks, t.program.Asks Call.transacts) ∧
      (Uncommitted q → q.backend.tables = p.backend.tables)) ⟨asks, fun _ => rfl⟩ ?_).2 uncommitted
  rintro q e he ⟨asks, same⟩
  have extends' := Pool.extends_after serve q e
  have move := Pool.move_after serve q e
  generalize q.after serve e = q' at move extends'
  cases move with
  | start r =>
    refine ⟨fun t ht => ?_, fun h => same (h.of_extends extends')⟩
    rcases List.mem_append.1 ht with ht | ht
    · exact asks t ht
    · rw [List.mem_singleton.1 ht]
      exact transacts r
  | @turn n t c next a b ht hp answered =>
    obtain ⟨kind, rest⟩ : (Program.ask c next).Asks Call.transacts :=
      hp ▸ asks t (List.mem_of_getElem? ht)
    refine ⟨fun s hs => ?_, fun h => ?_⟩
    · rcases List.mem_or_eq_of_mem_set hs with hs | rfl
      · exact asks s hs
      · exact rest a
    · rcases Backend.tables_of_answer answered with e | ⟨l, rfl, -⟩ | ⟨rfl, -⟩
      · exact e.trans (same (h.of_extends extends'))
      · cases kind
      · -- The call that has just been answered is a commit.
        refine absurd rfl (h (Pool.goOn t .commit next a b) ?_ ⟨.commit, a⟩ ?_)
        · exact List.mem_set (List.getElem?_eq_some_iff.1 ht).1 _
        · exact List.mem_append_right _ (List.mem_singleton.2 rfl)
  | remove id => exact absurd he (stay id)
  | idle tasks tables _ =>
    exact ⟨tasks ▸ asks, fun h => tables.trans (same (h.of_extends extends'))⟩

/-! ## All or nothing -/

/-- A transaction that inserts rows leaves the tables alone until it commits, wherever it is given
up. It adds all rows that its work inserts if the rows of the tables and these together satisfy the
constraints, and changes nothing if they do not or if its work fails. Another order of the same
inserts makes no difference, and after the commit the unit of work is closed. -/
theorem inTransaction_atomic (b : Backend) (quiet : b.Quiet) (sound : b.tables.Sound)
    (work : Service (Except StorageError α)) (inserts : work.Asks Call.inserts) :
    (∀ events : List (Event Unit), (∀ e ∈ events, e = .turn 0 ∨ e = .drop 0) →
      let p := Pool.run (fun _ => inTransaction work) ⟨b, [], []⟩ (.start () :: events)
      Uncommitted p → p.backend.tables = b.tables) ∧
    ∃ calls r s b', MakesInserts work calls r ∧ b.run (inTransaction work) = (.ok s, b') ∧
      Transacts b.tables (insertedUsers calls) (insertedLinks calls) r s b'.tables ∧
      (∀ (other : Service (Except StorageError β)) (calls' : List Call) (a : α) (a' : β),
        r = .ok a → MakesInserts other calls' (.ok a') → calls.Perm calls' →
        ∃ s' b'', b.run (inTransaction other) = (.ok s', b'') ∧ s.isOk = s'.isOk ∧
          b'.tables.users.Perm b''.tables.users ∧ b'.tables.links.Perm b''.tables.links) ∧
      (r.isOk → ∀ steps : List Step, ∃ b'', b'.run (performAll steps)
        = (.ok (steps.map fun _ => .error .transactionClosed), b'') ∧
          b''.tables = b'.tables ∧ b''.work = b'.work) := by
  constructor
  · intro events goOn p uncommitted
    refine untouched_run (p := ⟨b, [], []⟩) (fun _ => asks_inTransaction inserts)
      (fun _ h => nomatch h) (fun id h => ?_) uncommitted
    rcases List.mem_cons.1 h with h | h
    · cases h
    · rcases goOn _ h with e | e <;> cases e
  · obtain ⟨calls, r, made⟩ := exists_makesInserts inserts
    obtain ⟨s, b', run, transacts, quiet', finished⟩ := gives_transaction made quiet sound
    refine ⟨calls, r, s, b', made, run, transacts, ?_, fun ok steps => ?_⟩
    · rintro other calls' a a' rfl made' permuted
      obtain ⟨s', b'', run', transacts', -, -⟩ := gives_transaction made' quiet sound
      exact ⟨s', b'', run', transacts.perm transacts' (permuted.filterMap Call.user?)
        (permuted.filterMap Call.link?)⟩
    · obtain ⟨rs, b'', run', rfl, same⟩ := gives_performAll steps quiet' (finished ok)
      exact ⟨b'', run', same.tables, same.work⟩

/-- Makes some inserts one after the other, whatever comes of them. -/
def insertAll : List Call → Service (Except StorageError Unit)
  | [] => pure (.ok ())
  | .insertUser user :: calls => do
    let _ ← call (.insertUser user)
    insertAll calls
  | .insertLink link :: calls => do
    let _ ← call (.insertLink link)
    insertAll calls
  | _ :: calls => insertAll calls

/-- The inserts that are listed are those that are made. -/
theorem makesInserts_insertAll {calls : List Call} (inserts : ∀ c ∈ calls, c.inserts) :
    MakesInserts (insertAll calls) calls (.ok ()) := by
  induction calls with
  | nil => exact .done _
  | cons c calls ih =>
    obtain ⟨insert, others⟩ := List.forall_mem_cons.1 inserts
    cases c with
    | insertUser user => exact .insertUser (ih others)
    | insertLink link => exact .insertLink (ih others)
    | _ => cases insert

theorem asks_insertAll (calls : List Call) : (insertAll calls).Asks Call.inserts := by
  induction calls with
  | nil => trivial
  | cons c calls ih =>
    cases c with
    | insertUser user => exact ⟨rfl, fun _ => ih⟩
    | insertLink link => exact ⟨rfl, fun _ => ih⟩
    | _ => exact ih

/-- A user with a number and an address. -/
def numbered (n : Nat) (email : String) : User :=
  User.ofIdentity (Uuid.ofNat n) ⟨"", "", email, true, none, none⟩ default

/-- The link of a numbered user for GitHub. -/
def gitHubLink (n : Nat) (externalId : String) : Link :=
  Link.issued (Uuid.ofNat n) "github" externalId default default

/-- Surroundings in which one user is stored. -/
def oneStored : Backend := { (default : Backend) with
  tables := { users := [numbered 1 "ada@example.org"], links := [gitHubLink 1 "ada"] } }

/-- Two users with their links, one of the links before its user. -/
def linkFirst : List Call :=
  [.insertLink (gitHubLink 2 "bob"), .insertUser (numbered 3 "eve@example.org"),
    .insertUser (numbered 2 "bob@example.org"), .insertLink (gitHubLink 3 "eve")]

/-- The same rows, users first. -/
def usersFirst : List Call :=
  [.insertUser (numbered 2 "bob@example.org"), .insertUser (numbered 3 "eve@example.org"),
    .insertLink (gitHubLink 2 "bob"), .insertLink (gitHubLink 3 "eve")]

/-- The user of a link may be inserted after it, and the rows are the same in another order. -/
theorem inTransaction_atomic_linkFirst :
    oneStored.Quiet ∧ oneStored.tables.Sound ∧ (insertAll linkFirst).Asks Call.inserts ∧
      ∃ b' b'', oneStored.run (inTransaction (insertAll linkFirst)) = (.ok (.ok ()), b') ∧
        b'.tables.users = [numbered 1 "ada@example.org", numbered 3 "eve@example.org",
          numbered 2 "bob@example.org"] ∧
        b'.tables.links = [gitHubLink 1 "ada", gitHubLink 2 "bob", gitHubLink 3 "eve"] ∧
        oneStored.run (inTransaction (insertAll usersFirst)) = (.ok (.ok ()), b'') ∧
        b'.tables.users.Perm b''.tables.users ∧ b'.tables.links.Perm b''.tables.links := by
  have quiet : oneStored.Quiet := fun _ h => nomatch h
  have sound : oneStored.tables.Sound :=
    ⟨by decide, by decide, by decide, by decide, by decide +kernel⟩
  have made : MakesInserts (insertAll linkFirst) linkFirst (.ok ()) :=
    makesInserts_insertAll (by decide)
  have made' : MakesInserts (insertAll usersFirst) usersFirst (.ok ()) :=
    makesInserts_insertAll (by decide)
  refine ⟨quiet, sound, asks_insertAll linkFirst, ?_⟩
  obtain ⟨-, calls, r, s, b', made₁, run, transacts, permuted, -⟩ :=
    inTransaction_atomic (β := Unit) oneStored quiet sound _ (asks_insertAll linkFirst)
  obtain ⟨rfl, rfl⟩ := made₁.unique made
  obtain ⟨s', b'', run', same, users, links⟩ := permuted _ _ () () rfl made' (by decide +kernel)
  have admits : oneStored.tables.Admits (insertedUsers linkFirst) (insertedLinks linkFirst) :=
    ⟨by decide, by decide, by decide +kernel, by decide, by decide⟩
  generalize added : b'.tables = t at transacts
  cases transacts with
  | added _ _ =>
    have accepted : s' = .ok () := by
      cases s' with
      | ok _ => rfl
      | error e => cases same
    rw [accepted] at run'
    refine ⟨b', b'', run, ?_, ?_, run', users, links⟩ <;> rw [added] <;> rfl
  | refused _ _ not => exact absurd admits not

end Account

end FederatedLogin
