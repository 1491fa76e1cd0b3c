import FederatedLogin.Proofs.Account.Transaction
import FederatedLogin.Proofs.Backend.Transcript

/-!
# Attempts at a login

A login makes one attempt, and a second one if the first meets a conflict. Whatever storage answers,
an attempt ends in one of two ways: its last calls are those that store the user and the link of its
result, and nothing was stored before them, or its last call is refused, and nothing was stored at
all (`Attempted`). Units of work are committed only after all their inserts were accepted
(`CommitsWhole`). For a login with its one or two attempts this is `onboard_attempts`.
-/

namespace FederatedLogin

/-! ## What is written in a transcript -/

namespace Answered

/-- A unit of work was begun. -/
def begun : Answered := ⟨.begin, (.ok () : Except StorageError Unit)⟩

/-- A user was added to the unit of work. -/
def insertedUser (u : User) : Answered := ⟨.insertUser u, (.ok () : Except StorageError Unit)⟩

/-- A link was added to the unit of work. -/
def insertedLink (l : Link) : Answered := ⟨.insertLink l, (.ok () : Except StorageError Unit)⟩

/-- The unit of work was committed. -/
def committed : Answered := ⟨.commit, (.ok () : Except StorageError Unit)⟩

/-- The call was accepted and stored something for good. -/
def lands : Answered → Bool
  | ⟨.updateLink _, .ok _⟩ => true
  | ⟨.commit, .ok _⟩ => true
  | _ => false

/-- The call was accepted and added a row to the unit of work. -/
def inserts : Answered → Bool
  | ⟨.insertUser _, .ok _⟩ => true
  | ⟨.insertLink _, .ok _⟩ => true
  | _ => false

/-- The call looked for the user with an address. -/
def looksUp : Answered → Bool
  | ⟨.userByEmail _, _⟩ => true
  | _ => false

/-- Storage refused the call. -/
def Refused (x : Answered) (e : StorageError) : Prop := Backend.refusal? x.call e = some x.answer

end Answered

open Answered

/-- The calls that store the user and the link of a login. -/
def Onboarded.writes (o : Onboarded) : List Answered :=
  match o.outcome with
  | .createdUser => [begun, insertedUser o.user, insertedLink o.link, committed]
  | .linkedProvider => [begun, insertedLink o.link, committed]
  | .refreshedLink => [updated o.link]

namespace Account

open Program

variable {α : Type} {calls rows : List Answered} {x : Answered}

/-! ## Units of work that are whole -/

/-- Nothing was stored for good. -/
def Unlanded (calls : List Answered) : Prop := ∀ x ∈ calls, x.lands = false

/-- The call stored nothing for good, looked no address up and was no commit. -/
structure Idle (x : Answered) : Prop where
  unlanded : x.lands = false
  unlooked : x.looksUp = false
  uncommitted : x.call ≠ .commit

/-- An insert stores nothing for good. -/
theorem idle_of_call_inserts (h : x.call.inserts = true) : Idle x := by
  obtain ⟨c, a⟩ := x
  cases c <;> first | exact ⟨rfl, rfl, nofun⟩ | cases h

/-- An insert that was accepted stores nothing for good. -/
theorem idle_of_inserts (h : x.inserts = true) : Idle x := by
  obtain ⟨c, a⟩ := x
  cases c <;> first | exact ⟨rfl, rfl, nofun⟩ | cases h

/-- A unit of work that begins stores nothing. -/
theorem idle_begin (a : Call.begin.Answer) : Idle ⟨.begin, a⟩ := ⟨rfl, rfl, nofun⟩

/-- Whenever a unit of work was committed, all the calls since it was begun had added a row to it,
and there were such calls. -/
def CommitsWhole (calls : List Answered) : Prop :=
  ∀ before a after, calls = before ++ ⟨.commit, a⟩ :: after →
    ∃ earlier rows, before = earlier ++ begun :: rows ∧ rows ≠ [] ∧ ∀ x ∈ rows, x.inserts = true

/-- Without a commit, what is committed is whole. -/
theorem commitsWhole_of_uncommitted (h : ∀ x ∈ calls, x.call ≠ .commit) : CommitsWhole calls := by
  rintro before a after rfl
  exact absurd rfl (h ⟨.commit, a⟩ (by simp))

/-- Calls after calls commit whole units of work if both do. -/
theorem CommitsWhole.append {first second : List Answered} (h : CommitsWhole first)
    (h' : CommitsWhole second) : CommitsWhole (first ++ second) := by
  intro before a after split
  -- The commit is one of the first calls or one of the second.
  obtain ⟨between, rfl, rest⟩ | ⟨between, rfl, rest⟩ := List.append_eq_append_iff.1 split
  · obtain ⟨earlier, rows, rfl, whole⟩ := h' between a after rest
    exact ⟨first ++ earlier, rows, by simp, whole⟩
  · cases between with
    | nil =>
      obtain ⟨earlier, rows, none, -⟩ := h' [] a after rest.symm
      simp at none
    | cons y between =>
      obtain ⟨rfl, -⟩ := List.cons.inj rest
      exact h before a between rfl

/-- An idle call before the others leaves what they commit whole. -/
theorem CommitsWhole.cons (h : CommitsWhole calls) (idle : Idle x) : CommitsWhole (x :: calls) :=
  (commitsWhole_of_uncommitted (List.forall_mem_singleton.2 idle.uncommitted)).append h

/-- A unit of work stores nothing for good before it is committed. -/
theorem idle_unit (inserted : ∀ x ∈ rows, x.inserts = true) : ∀ x ∈ begun :: rows, Idle x :=
  List.forall_mem_cons.2 ⟨idle_begin _, fun x hx => idle_of_inserts (inserted x hx)⟩

/-- A unit of work whose rows were all accepted may be committed. -/
theorem commitsWhole_unit (inserted : ∀ x ∈ rows, x.inserts = true) (nonempty : rows ≠ [])
    (a : Call.commit.Answer) : CommitsWhole (begun :: rows ++ [⟨.commit, a⟩]) := by
  have idle := idle_unit inserted
  intro before a' after split
  -- The unit of work holds no commit, so that the one is the call that ends it.
  obtain ⟨between, rfl, rest⟩ | ⟨between, unit, rest⟩ := List.append_eq_append_iff.1 split
  · cases between with
    | nil => exact ⟨[], rows, by simp, nonempty, inserted⟩
    | cons y between => simp at rest
  · cases between with
    | nil => exact ⟨[], rows, by simpa using unit.symm, nonempty, inserted⟩
    | cons y between =>
      obtain ⟨rfl, -⟩ := List.cons.inj rest
      exact absurd rfl (idle ⟨.commit, a'⟩ (by rw [unit]; simp)).uncommitted

/-! ## Writes -/

/-- The calls of an insert or of several: the rows were all added, or one was refused. -/
inductive Inserts (rows : List Answered) : List Answered → Except StorageError Unit → Prop
  | added : Inserts rows rows (.ok ())
  | refused {e : StorageError} (before : List Answered) (last : Answered) :
      (∀ x ∈ before, x.inserts = true) → last.call.inserts = true → last.Refused e →
      Inserts rows (before ++ [last]) (.error e)

/-- The calls end with those that write, and nothing was stored before them, or storage refused the
last one, and nothing was stored at all. -/
inductive Ending (writes : List Answered) : List Answered → Except StorageError Unit → Prop
  | landed (earlier : List Answered) : Unlanded earlier → Ending writes (earlier ++ writes) (.ok ())
  | refused {e : StorageError} (before : List Answered) (last : Answered) :
      Unlanded before → last.Refused e → Ending writes (before ++ [last]) (.error e)

/-- The calls write, or storage refuses one of them. They look no address up, and what they commit
is whole. -/
structure Writes (writes calls : List Answered) (r : Except StorageError Unit) : Prop where
  unlooked : ∀ x ∈ calls, x.looksUp = false
  whole : CommitsWhole calls
  ending : Ending writes calls r

variable {writes : List Answered} {r : Except StorageError Unit}

/-- An idle call may come first. -/
theorem Writes.cons (h : Writes writes calls r) (idle : Idle x) : Writes writes (x :: calls) r where
  unlooked := List.forall_mem_cons.2 ⟨idle.unlooked, h.unlooked⟩
  whole := h.whole.cons idle
  ending := by
    cases h.ending with
    | landed earlier spared =>
      exact .landed (x :: earlier) (List.forall_mem_cons.2 ⟨idle.unlanded, spared⟩)
    | refused before last spared refused =>
      exact .refused (x :: before) last (List.forall_mem_cons.2 ⟨idle.unlanded, spared⟩) refused

/-- Idle calls, of which the last is refused, write nothing. -/
theorem writes_refused {e : StorageError} (before : List Answered) (last : Answered)
    (idle : ∀ y ∈ before ++ [last], Idle y) (refused : last.Refused e) :
    Writes writes (before ++ [last]) (.error e) where
  unlooked := fun y hy => (idle y hy).unlooked
  whole := commitsWhole_of_uncommitted fun y hy => (idle y hy).uncommitted
  ending :=
    .refused before last (fun y hy => (idle y (List.mem_append_left _ hy)).unlanded) refused

/-- A unit of work whose rows were all accepted is committed, or the commit is refused. -/
theorem writes_commit (nonempty : rows ≠ []) (inserted : ∀ x ∈ rows, x.inserts = true)
    (r : Except StorageError Unit) :
    Writes (begun :: rows ++ [committed]) (begun :: rows ++ [⟨.commit, r⟩]) r := by
  have idle := idle_unit inserted
  refine ⟨?_, commitsWhole_unit inserted nonempty r, ?_⟩
  · intro x hx
    obtain hx | hx := List.mem_append.1 hx
    · exact (idle x hx).unlooked
    · rw [List.mem_singleton.1 hx]
      rfl
  · cases r with
    | error e => exact .refused (begun :: rows) _ (fun x hx => (idle x hx).unlanded) rfl
    | ok _ => exact .landed [] (List.forall_mem_nil _)

/-! ## One attempt -/

/-- The insert of a link adds one row or is refused. -/
theorem inserts_insertLink {l : Link} (h : (call (.insertLink l)).Ends calls r) :
    Inserts [insertedLink l] calls r := by
  obtain rfl := ends_call.1 h
  cases r with
  | error e => exact .refused [] _ (List.forall_mem_nil _) rfl rfl
  | ok _ => exact .added

/-- The insert of a user and a link adds both rows, or one of them is refused. -/
theorem inserts_insertBoth {user : User} {l : Link} (h : (insertBoth user l).Ends calls r) :
    Inserts [insertedUser user, insertedLink l] calls r := by
  obtain ⟨inserted, rest, rfl, ends⟩ := ends_call_bind.1 h
  cases inserted with
  | error e =>
    obtain ⟨rfl, rfl⟩ := ends
    exact .refused [] _ (List.forall_mem_nil _) rfl rfl
  | ok _ =>
    cases inserts_insertLink ends with
    | added => exact .added
    | refused before last accepted kind refused =>
      exact .refused (insertedUser user :: before) last
        (List.forall_mem_cons.2 ⟨rfl, accepted⟩) kind refused

/-- A transaction commits the rows of its work, or storage refuses one of its calls. -/
theorem writes_inTransaction {work : Service (Except StorageError Unit)} (nonempty : rows ≠ [])
    (inserted : ∀ x ∈ rows, x.inserts = true)
    (works : ∀ calls r, work.Ends calls r → Inserts rows calls r)
    (h : (inTransaction work).Ends calls r) :
    Writes (begun :: rows ++ [committed]) calls r := by
  obtain ⟨began, rest, rfl, worked⟩ := ends_call_bind.1 h
  cases began with
  | error e =>
    obtain ⟨rfl, rfl⟩ := worked
    exact writes_refused [] _ (List.forall_mem_singleton.2 (idle_begin _)) rfl
  | ok _ =>
    obtain ⟨first, result, second, rfl, did, goes⟩ := ends_bind.1 worked
    cases works first result did with
    | refused before last accepted kind refused =>
      obtain ⟨rfl, rfl⟩ := goes
      rw [List.append_nil]
      refine (writes_refused before last ?_ refused).cons (idle_begin _)
      refine List.forall_mem_append.2 ⟨fun x hx => idle_of_inserts (accepted x hx), ?_⟩
      exact List.forall_mem_singleton.2 (idle_of_call_inserts kind)
    | added =>
      obtain ⟨done, rest, rfl, ended⟩ := ends_call_bind.1 goes
      cases done <;>
      · obtain ⟨rfl, rfl⟩ := ended
        exact writes_commit nonempty inserted _

/-- Storing tokens is one write, or is refused. -/
theorem writes_updateLink {l : Link} (h : (call (.updateLink l)).Ends calls r) :
    Writes [updated l] calls r := by
  obtain rfl := ends_call.1 h
  refine ⟨List.forall_mem_singleton.2 rfl, ?_, ?_⟩
  · exact commitsWhole_of_uncommitted (List.forall_mem_singleton.2 nofun)
  · cases r with
    | error e => exact .refused [] _ (List.forall_mem_nil _) rfl
    | ok _ => exact .landed [] (List.forall_mem_nil _)

/-- How the calls of a login end: with the writes of its result, and nothing was stored before them,
or storage refused the last one, and nothing was stored at all. -/
inductive Concludes : List Answered → Except AccountError Onboarded → Prop
  | landed {o : Onboarded} (earlier : List Answered) : Unlanded earlier →
      (o.outcome ≠ .refreshedLink → o.link.userId = o.user.id) →
      Concludes (earlier ++ o.writes) (.ok o)
  | refused {e : StorageError} (before : List Answered) (last : Answered) : Unlanded before →
      last.Refused e → Concludes (before ++ [last]) (.error (.storage e))

/-- What is to be known about the calls of a login, or of a part of it: how many of them look an
address up, that units of work are committed whole, and how the calls end. -/
structure Attempted (lookups : Nat) (calls : List Answered)
    (result : Except AccountError Onboarded) : Prop where
  lookups : calls.countP Answered.looksUp = lookups
  whole : CommitsWhole calls
  concludes : Concludes calls result

variable {user : User} {link : Link} {outcome : Outcome} {issuer : String} {tokens : TokenSet}
  {identity : Identity} {now : Time.Instant} {result : Except AccountError Onboarded} {n : Nat}

/-- The writes of a login make its end. -/
theorem Writes.attempted (h : Writes (Onboarded.writes ⟨user, link, outcome⟩) calls r)
    (owned : outcome ≠ .refreshedLink → link.userId = user.id) :
    Attempted 0 calls (finished user link outcome r) where
  lookups := List.countP_eq_zero.2 fun x hx => by simp [h.unlooked x hx]
  whole := h.whole
  concludes := by
    cases h.ending with
    | landed earlier spared => exact .landed earlier spared owned
    | refused before last spared refused => exact .refused before last spared refused

/-- Calls that store nothing may come first. -/
theorem Attempted.prepend {first : List Answered} (h : Attempted n calls result)
    (unlanded : Unlanded first) (whole : CommitsWhole first) :
    Attempted (first.countP Answered.looksUp + n) (first ++ calls) result where
  lookups := by rw [List.countP_append, h.lookups]
  whole := whole.append h.whole
  concludes := by
    cases h.concludes with
    | landed earlier spared owned =>
      rw [← List.append_assoc]
      exact .landed _ (List.forall_mem_append.2 ⟨unlanded, spared⟩) owned
    | refused before last spared refused =>
      rw [← List.append_assoc]
      exact .refused _ last (List.forall_mem_append.2 ⟨unlanded, spared⟩) refused

/-- An idle call before the others adds no attempt. -/
theorem Attempted.cons (h : Attempted n calls result) (idle : Idle x) :
    Attempted n (x :: calls) result := by
  have prepended := h.prepend (List.forall_mem_singleton.2 idle.unlanded)
    (commitsWhole_of_uncommitted (List.forall_mem_singleton.2 idle.uncommitted))
  rwa [List.countP_singleton, if_neg (by simp [idle.unlooked]), Nat.zero_add] at prepended

/-- A look for an address before the others begins one more attempt. -/
theorem Attempted.cons_userByEmail {email : String} {a : (Call.userByEmail email).Answer}
    (h : Attempted n calls result) :
    Attempted (n + 1) (⟨.userByEmail email, a⟩ :: calls) result := by
  have unlanded : Unlanded [⟨.userByEmail email, a⟩] := List.forall_mem_singleton.2 rfl
  have whole : CommitsWhole [⟨.userByEmail email, a⟩] :=
    commitsWhole_of_uncommitted (List.forall_mem_singleton.2 nofun)
  rw [Nat.add_comm]
  exact h.prepend unlanded whole

/-- A call that is refused ends the login. -/
theorem attempted_refused {e : StorageError} (lookups : List.countP Answered.looksUp [x] = n)
    (refused : x.Refused e) (uncommitted : x.call ≠ .commit) :
    Attempted n [x] (.error (.storage e)) where
  lookups := lookups
  whole := commitsWhole_of_uncommitted (List.forall_mem_singleton.2 uncommitted)
  concludes := .refused [] x (List.forall_mem_nil _) refused

/-- Creating a user ends with the writes of the result, or storage refuses one of the calls. -/
theorem attempted_createUser (h : (createUser issuer tokens identity now).Ends calls result) :
    Attempted 0 calls result := by
  obtain ⟨id, rest, rfl, ends⟩ := ends_call_bind.1 h
  obtain ⟨r, ended, rfl⟩ := ends_map.1 ends
  let user := User.ofIdentity id identity now
  let link := Link.issued id issuer identity.subject tokens now
  have rows : ∀ x ∈ [insertedUser user, insertedLink link], x.inserts = true :=
    List.forall_mem_cons.2 ⟨rfl, List.forall_mem_singleton.2 rfl⟩
  have writes : Writes (Onboarded.writes ⟨user, link, .createdUser⟩) rest r :=
    writes_inTransaction (List.cons_ne_nil _ _) rows (fun _ _ => inserts_insertBoth) ended
  exact (writes.attempted fun _ => rfl).cons ⟨rfl, rfl, nofun⟩

/-- Linking a user ends with the writes of the result, or storage refuses one of the calls. -/
theorem attempted_linkProvider
    (h : (linkProvider user issuer tokens identity now).Ends calls result) :
    Attempted 0 calls result := by
  obtain ⟨r, ended, rfl⟩ := ends_map.1 h
  let link := Link.issued user.id issuer identity.subject tokens now
  have writes : Writes (Onboarded.writes ⟨user, link, .linkedProvider⟩) calls r :=
    writes_inTransaction (List.cons_ne_nil _ _) (List.forall_mem_singleton.2 rfl)
      (fun _ _ => inserts_insertLink) ended
  exact writes.attempted fun _ => rfl

/-- Refreshing a link ends with the write of the result, or storage refuses it. -/
theorem attempted_refreshLink
    (h : (refreshLink user link tokens identity now).Ends calls result) :
    Attempted 0 calls result := by
  have stores {calls : List Answered}
      (h : (finished user (link.refresh tokens now) .refreshedLink <$>
        call (.updateLink (link.refresh tokens now))).Ends calls result) :
      Attempted 0 calls result := by
    obtain ⟨r, ended, rfl⟩ := ends_map.1 h
    exact Writes.attempted (writes_updateLink ended) fun other => absurd rfl other
  unfold refreshLink at h
  split at h
  · obtain ⟨_, rest, rfl, ends⟩ := ends_call_bind.1 h
    exact (stores ends).cons ⟨rfl, rfl, nofun⟩
  · exact stores h

/-- One attempt looks the address up once. -/
theorem attempted_resolve (h : (resolve issuer tokens identity).Ends calls result) :
    Attempted 1 calls result := by
  obtain ⟨now, rest, rfl, looked⟩ := ends_call_bind.1 h
  refine Attempted.cons ?_ ⟨rfl, rfl, nofun⟩
  obtain ⟨user, rest, rfl, ends⟩ := ends_call_bind.1 looked
  split at ends
  · exact (attempted_createUser ends).cons_userByEmail
  · obtain ⟨rfl, rfl⟩ := ends
    exact attempted_refused rfl rfl nofun
  · refine Attempted.cons_userByEmail ?_
    obtain ⟨link, rest, rfl, goes⟩ := ends_call_bind.1 ends
    split at goes
    · exact (attempted_linkProvider goes).cons ⟨rfl, rfl, nofun⟩
    · obtain ⟨rfl, rfl⟩ := goes
      exact attempted_refused rfl rfl nofun
    · exact (attempted_refreshLink goes).cons ⟨rfl, rfl, nofun⟩

/-! ## A whole login -/

/-- An attempt met a conflict. -/
def Conflicted (result : Except AccountError Onboarded) : Prop :=
  ∃ constraint, result = .error (.storage (.conflict constraint))

/-- What is logged between two attempts. -/
def raced : Answered := ⟨.log .warning "onboarding raced with another login, re-reading", ()⟩

/-- A login with its one or two attempts. A second one is made exactly if the first one meets a
conflict, and the result is that of the last one. -/
inductive Attempts (issuer : String) (tokens : TokenSet) (identity : Identity) :
    List Answered → Except AccountError Onboarded → Prop
  | one {calls : List Answered} {result : Except AccountError Onboarded} :
      (resolve issuer tokens identity).Ends calls result → ¬ Conflicted result →
      Attempts issuer tokens identity calls result
  | two {first second : List Answered} {conflict result : Except AccountError Onboarded} :
      (resolve issuer tokens identity).Ends first conflict → Conflicted conflict →
      (resolve issuer tokens identity).Ends second result →
      Attempts issuer tokens identity (first ++ raced :: second) result

/-- A login makes one attempt, or two with a conflict between them. -/
theorem attempts_onboard (h : (onboard issuer tokens identity).Ends calls result) :
    Attempts issuer tokens identity calls result := by
  obtain ⟨first, conflict, rest, rfl, ends, goes⟩ := ends_bind.1 h
  split at goes
  · next constraint =>
    obtain ⟨_, second, rfl, ends'⟩ := ends_call_bind.1 goes
    exact .two ends ⟨constraint, rfl⟩ ends'
  · next other =>
    obtain ⟨rfl, rfl⟩ := goes
    rw [List.append_nil]
    refine .one ends ?_
    rintro ⟨constraint, rfl⟩
    exact other constraint rfl

/-- A call that is refused stores nothing. -/
theorem unlanded_of_refused {e : StorageError} (h : x.Refused e) : x.lands = false := by
  obtain ⟨c, a⟩ := x
  cases c <;> first | rfl | (cases h; rfl)

/-- A login that fails stores nothing. -/
theorem Concludes.unlanded {e : AccountError} (h : Concludes calls (.error e)) :
    Unlanded calls := by
  cases h with
  | refused before last spared refused =>
    exact List.forall_mem_append.2
      ⟨spared, List.forall_mem_singleton.2 (unlanded_of_refused refused)⟩

/-- The attempts of a login, taken together, end as the last one does. -/
theorem Attempts.attempted (h : Attempts issuer tokens identity calls result) :
    ∃ n, n ≤ 2 ∧ Attempted n calls result := by
  cases h with
  | one ends _ => exact ⟨1, by omega, attempted_resolve ends⟩
  | @two first second conflict result ends conflicted ends' =>
    obtain ⟨constraint, rfl⟩ := conflicted
    have before := attempted_resolve ends
    have after : Attempted 1 (raced :: second) result :=
      (attempted_resolve ends').cons ⟨rfl, rfl, nofun⟩
    have both := after.prepend before.concludes.unlanded before.whole
    rw [before.lookups] at both
    exact ⟨2, Nat.le_refl 2, both⟩

/-! ## What landed -/

/-- Where nothing was stored for good, no call has landed. -/
theorem countP_eq_zero_of_unlanded (h : Unlanded calls) : calls.countP Answered.lands = 0 :=
  List.countP_eq_zero.2 fun x hx => by simp [h x hx]

/-- Of the calls that store the result of a login, one lands. -/
theorem countP_lands_writes (o : Onboarded) : o.writes.countP Answered.lands = 1 := by
  unfold Onboarded.writes
  split <;> rfl

/-- One write lands if the login succeeds, and none if it fails. -/
theorem Concludes.countP_lands (h : Concludes calls result) :
    calls.countP Answered.lands = if result.isOk then 1 else 0 := by
  cases result with
  | error e => exact countP_eq_zero_of_unlanded h.unlanded
  | ok o =>
    cases h with
    | landed earlier spared owned =>
      rw [List.countP_append, countP_eq_zero_of_unlanded spared, countP_lands_writes]
      rfl

/-- A login fails with the cause for which its last call was refused. -/
theorem Concludes.exists_refused {e : AccountError} (h : Concludes calls (.error e)) :
    ∃ cause, e = .storage cause ∧ ∃ before last, calls = before ++ [last] ∧ last.Refused cause := by
  cases h with
  | @refused cause before last spared refused => exact ⟨cause, rfl, before, last, rfl, refused⟩

/-- A login ends with the writes of its result. A new link belongs to the user. -/
theorem Concludes.exists_writes {o : Onboarded} (h : Concludes calls (.ok o)) :
    (∃ earlier, calls = earlier ++ o.writes) ∧
      (o.outcome ≠ .refreshedLink → o.link.userId = o.user.id) := by
  cases h with
  | landed earlier spared owned => exact ⟨⟨earlier, rfl⟩, owned⟩

/-- Whatever storage answers, a login makes at most two attempts, the second one exactly if the
first meets a conflict, and its result is that of the last attempt. It fails with the cause for
which its last call was refused. Units of work are committed whole. One write lands if the login
succeeds, and none if it fails; the writes of the result are the last calls, and a new link belongs
to the user. -/
theorem onboard_attempts (s : Responder) (issuer : String) (tokens : TokenSet)
    (identity : Identity) :
    ∃ result calls, s.run (onboard issuer tokens identity) = (result, calls) ∧
      Attempts issuer tokens identity calls result ∧
      calls.countP Answered.looksUp ≤ 2 ∧
      (∀ e, result = .error e → ∃ cause, e = .storage cause ∧
        ∃ before last, calls = before ++ [last] ∧ last.Refused cause) ∧
      CommitsWhole calls ∧
      calls.countP Answered.lands = (if result.isOk then 1 else 0) ∧
      ∀ o, result = .ok o → (∃ earlier, calls = earlier ++ o.writes) ∧
        (o.outcome ≠ .refreshedLink → o.link.userId = o.user.id) := by
  have attempts := attempts_onboard (s.ends_run (onboard issuer tokens identity))
  obtain ⟨n, le, attempted⟩ := attempts.attempted
  rw [← attempted.lookups] at le
  refine ⟨_, _, rfl, attempts, le, ?_, attempted.whole, attempted.concludes.countP_lands, ?_⟩
  · intro e failed
    exact (failed ▸ attempted.concludes).exists_refused
  · intro o succeeded
    exact (succeeded ▸ attempted.concludes).exists_writes

end Account

end FederatedLogin
