import FederatedLogin.Backend.Basic
import FederatedLogin.Proofs.Account.Tables
import FederatedLogin.Proofs.Session.Store

/-!
# What an answered call changes

Each call touches little of the surroundings. The lemmas here say, for a call that was answered,
what became of the tables (`tables_of_answer`), of the session store (`mem_sessions_of_answer`), and
of the unit of work, and what its answer says about them. Nothing else needs to look into
`Backend.answer`. Where no failure of storage is scripted (`Backend.Quiet`), a call on users and
links has the one effect that the tables allow (`Backend.Effect`).
-/

namespace FederatedLogin

/-- A call and what was answered to it. -/
structure Answered where
  call : Call
  answer : call.Answer

namespace Answered

/-- Tokens of a link were stored. -/
def updated (l : Link) : Answered := ⟨.updateLink l, (.ok () : Except StorageError Unit)⟩

/-- The identifier of a session was made. -/
def made (id : Uuid) : Answered := ⟨.newSessionId, id⟩

/-- A session value was found. -/
def found (key value : String) : Answered :=
  ⟨.loadSession key, (.ok (some value) : Except Session.Error (Option String))⟩

/-- A session value was stored. -/
def stored (key value : String) (lifetime : Option Nat) : Answered :=
  ⟨.storeSession key value lifetime, (.ok () : Except Session.Error Unit)⟩

/-- A session value was deleted. -/
def deleted (key : String) : Answered :=
  ⟨.deleteSession key, (.ok () : Except Session.Error Unit)⟩

end Answered

/-- The call is one on sessions. -/
def Call.onSessions : Call → Bool
  | .newSessionId | .loadSession _ | .storeSession _ _ _ | .deleteSession _ => true
  | _ => false

namespace UnitOfWork

variable {w w' : UnitOfWork}

/-- An open unit of work takes any user, whether the user can be added or not. -/
theorem insertUser_of_not_finished {u : User} (h : w.finished = false) :
    w.insertUser u = .ok { w with users := w.users ++ [u] } := by
  unfold insertUser
  rw [if_neg (by simp [h])]

/-- An open unit of work takes any link, whether the link can be added or not. -/
theorem insertLink_of_not_finished {l : Link} (h : w.finished = false) :
    w.insertLink l = .ok { w with links := w.links ++ [l] } := by
  unfold insertLink
  rw [if_neg (by simp [h])]

/-- A unit of work that took a user holds one more at the end. -/
theorem eq_of_insertUser {u : User} (h : w.insertUser u = .ok w') :
    w' = { w with users := w.users ++ [u] } := by
  unfold insertUser at h
  split at h <;> cases h
  rfl

/-- A unit of work that took a link holds one more at the end. -/
theorem eq_of_insertLink {l : Link} (h : w.insertLink l = .ok w') :
    w' = { w with links := w.links ++ [l] } := by
  unfold insertLink at h
  split at h <;> cases h
  rfl

end UnitOfWork

namespace Backend

variable {b b' : Backend} {c : Call} {a : c.Answer}

/-! ## Recording -/

@[simp] theorem record_tables (b : Backend) (c : Call) : (b.record c).tables = b.tables := rfl

@[simp] theorem record_work (b : Backend) (c : Call) : (b.record c).work = b.work := rfl

@[simp] theorem record_sessions (b : Backend) (c : Call) : (b.record c).sessions = b.sessions := rfl

/-- A call is answered by a failure that was due, or it reaches the surroundings. -/
theorem answer_cases (h : b.answer c = .ok (a, b')) :
    (∃ e, refusal? c e = some a ∧ b' = b.record c) ∨ (b.record c).perform c = .ok (a, b') := by
  unfold answer at h
  split at h
  · next refusal hr =>
    obtain ⟨e, -, he⟩ := Option.bind_eq_some_iff.1 hr
    cases h
    exact .inl ⟨e, he, rfl⟩
  · exact .inr h

/-- A call whose failure is due is refused, and does not reach the surroundings. -/
theorem answer_of_dueFault {e : StorageError} (due : b.dueFault c = some e)
    (refused : refusal? c e = some a) : b.answer c = .ok (a, b.record c) := by
  unfold answer
  rw [due, Option.bind_some, refused]

/-- A call of which no failure is due reaches the surroundings. -/
theorem answer_of_dueFault_none (works : b.dueFault c = none) :
    b.answer c = (b.record c).perform c := by
  unfold answer
  rw [works]
  rfl

/-- A call that is none on users and links does not fail as storage fails. -/
theorem answer_of_point? (b : Backend) (hc : point? c = none) :
    b.answer c = (b.record c).perform c := by
  refine answer_of_dueFault_none ?_
  unfold dueFault
  rw [hc]
  rfl

/-- The failures of other kinds of calls stay the same. -/
theorem next_advance_of_ne (f : Faults) {point other : Point} (h : other ≠ point) :
    (f.advance point).next other = f.next other := by
  unfold Faults.next Faults.advance
  dsimp only
  induction f.storage with
  | nil => rfl
  | cons q rest ih =>
    rw [List.map_cons, List.lookup_cons, List.lookup_cons]
    by_cases here : q.1 = other
    · rw [if_neg (here ▸ h), beq_iff_eq.2 here.symm]
    · have elsewhere : (other == q.1) = false := beq_false_of_ne (Ne.symm here)
      rw [apply_ite Prod.fst, ite_self, elsewhere]
      exact ih

/-! ## Calls that leave the stores alone -/

/-- The surroundings hold the same tables, session values and unit of work. -/
structure SameStores (b b' : Backend) : Prop where
  tables : b'.tables = b.tables
  sessions : b'.sessions = b.sessions
  work : b'.work = b.work

theorem sameStores_record (b : Backend) (c : Call) : SameStores b (b.record c) := ⟨rfl, rfl, rfl⟩

theorem SameStores.refl (b : Backend) : SameStores b b := ⟨rfl, rfl, rfl⟩

theorem SameStores.symm {b b' : Backend} (h : SameStores b b') : SameStores b' b :=
  ⟨h.tables.symm, h.sessions.symm, h.work.symm⟩

theorem SameStores.trans {b₁ b₂ b₃ : Backend} (h : SameStores b₁ b₂) (h' : SameStores b₂ b₃) :
    SameStores b₁ b₃ :=
  ⟨h'.tables.trans h.tables, h'.sessions.trans h.sessions, h'.work.trans h.work⟩

/-- A request to a provider changes nothing but what is left of the responses and what was
requested. -/
theorem exists_answerHttp_send (b : Backend) (request : Provider.HttpRequest) :
    ∃ left made, (b.answerHttp (.send request)).2 =
      { b with responses := left, requests := made } := by
  unfold answerHttp
  split
  · exact ⟨b.responses, b.requests, rfl⟩
  · next response rest _ =>
    dsimp only
    split
    · exact ⟨rest, b.requests ++ [request], rfl⟩
    · exact ⟨b.responses, b.requests, rfl⟩

/-- A question of an adapter changes nothing that is stored. -/
theorem sameStores_answerHttp (b : Backend) (q : Provider.HttpCall) :
    SameStores b (b.answerHttp q).2 := by
  cases q with
  | now => exact ⟨rfl, rfl, rfl⟩
  | log level text => exact ⟨rfl, rfl, rfl⟩
  | send request =>
    obtain ⟨left, made, after⟩ := exists_answerHttp_send b request
    rw [after]
    exact ⟨rfl, rfl, rfl⟩

/-- What no question of an adapter changes, no program of an adapter changes. -/
theorem keeps_runTraffic {α κ : Type} (part : Backend → κ)
    (h : ∀ b q, part (b.answerHttp q).2 = part b) (p : Provider.Traffic α) (b : Backend) :
    part (b.runTraffic p).2 = part b := by
  induction p generalizing b with
  | done a => rfl
  | ask q next ih => exact (ih _ _).trans (h b q)

/-- No program of an adapter changes a store. -/
theorem sameStores_runTraffic {α : Type} (p : Provider.Traffic α) (b : Backend) :
    SameStores b (b.runTraffic p).2 where
  tables := keeps_runTraffic tables (fun b q => (sameStores_answerHttp b q).tables) p b
  sessions := keeps_runTraffic sessions (fun b q => (sameStores_answerHttp b q).sessions) p b
  work := keeps_runTraffic work (fun b q => (sameStores_answerHttp b q).work) p b

/-- No exchange of a code changes a store. -/
theorem sameStores_exchange {n : Nat} {grant : Provider.Grant} {r : Except Provider.Error TokenSet}
    (h : b.exchange n grant = .ok (r, b')) : SameStores b b' := by
  unfold exchange at h
  split at h
  · cases h
  · cases h
  · split at h <;> (cases h; exact ⟨rfl, rfl, rfl⟩)
  · next adapter _ =>
    injection h with h
    have run := sameStores_runTraffic (adapter.exchange grant) b
    rwa [h] at run

/-- No look for an identity changes a store. -/
theorem sameStores_identity {n : Nat} {token : String} {r : Except Provider.Error Identity}
    (h : b.identity n token = .ok (r, b')) : SameStores b b' := by
  unfold identity at h
  split at h
  · cases h
  · cases h
  · cases h
    exact ⟨rfl, rfl, rfl⟩
  · next adapter _ =>
    injection h with h
    have run := sameStores_runTraffic (adapter.fetchIdentity token) b
    rwa [h] at run

/-- The calls that may change the tables, the session values or the unit of work. -/
def touchesStores : Call → Bool
  | .updateLink _ | .begin | .insertUser _ | .insertLink _ | .commit => true
  | .loadSession _ | .storeSession _ _ _ | .deleteSession _ => true
  | _ => false

/-- Calls that are none of the stores change no store. -/
theorem sameStores_answer (hc : touchesStores c = false) (h : b.answer c = .ok (a, b')) :
    SameStores b b' := by
  rcases answer_cases h with ⟨e, -, rfl⟩ | h
  · exact sameStores_record b c
  · cases c with
    | exchange n grant => exact (sameStores_record b _).trans (sameStores_exchange h)
    | identity n token => exact (sameStores_record b _).trans (sameStores_identity h)
    | _ => first | (cases h; exact ⟨rfl, rfl, rfl⟩) | cases hc

/-! ## Tables -/

/-- A commit adds all rows of the unit of work or none, and finishes it. -/
theorem commit_eq (b : Backend) :
    b.commit = if b.work.finished then (.error .transactionClosed, b) else
      match b.work.apply b.tables with
      | .ok t => (.ok (), { b with work := { b.work with finished := true }, tables := t })
      | .error e => (.error e, { b with work := { b.work with finished := true } }) := by
  by_cases hf : b.work.finished
  · simp [commit, UnitOfWork.commit, hf]
  · cases ha : b.work.apply b.tables <;> simp [commit, UnitOfWork.commit, hf, ha]

/-- The three ways for a call to treat the tables: it leaves them alone, it stores tokens, or it
adds the rows of a unit of work. -/
theorem tables_of_answer (h : b.answer c = .ok (a, b')) :
    b'.tables = b.tables ∨ (∃ l, c = .updateLink l ∧ b.tables.updateLink l = .ok b'.tables) ∨
      (c = .commit ∧ b.work.apply b.tables = .ok b'.tables) := by
  by_cases hc : touchesStores c = false
  · exact .inl (sameStores_answer hc h).tables
  -- A call that fails on purpose does not reach the stores.
  rcases answer_cases h with ⟨e, -, rfl⟩ | h
  · exact .inl rfl
  cases c with
  | updateLink l =>
    simp only [perform, updateLink, record_tables] at h
    split at h
    · next t ht => cases h; exact .inr (.inl ⟨l, rfl, ht⟩)
    · cases h; exact .inl rfl
  | commit =>
    injection h with h
    rw [commit_eq, record_work, record_tables] at h
    split at h
    · cases h; exact .inl rfl
    · split at h
      · next t ht => cases h; exact .inr (.inr ⟨rfl, ht⟩)
      · cases h; exact .inl rfl
  | begin => cases h; exact .inl rfl
  | insertUser u =>
    simp only [perform, insert] at h
    split at h <;> (cases h; exact .inl rfl)
  | insertLink l =>
    simp only [perform, insert] at h
    split at h <;> (cases h; exact .inl rfl)
  | loadSession key =>
    simp only [perform, loadSession] at h
    split at h <;> (cases h; exact .inl rfl)
  | storeSession key value lifetime =>
    simp only [perform, storeSession] at h
    split at h
    · cases h; exact .inl rfl
    · split at h <;> cases h
      exact .inl rfl
  | deleteSession key =>
    simp only [perform, deleteSession] at h
    split at h <;> (cases h; exact .inl rfl)
  | _ => exact absurd rfl hc

/-- No call breaks the constraints of the tables. -/
theorem sound_of_answer (h : b.answer c = .ok (a, b')) (sound : b.tables.Sound) :
    b'.tables.Sound := by
  rcases tables_of_answer h with same | ⟨l, -, stored⟩ | ⟨-, added⟩
  · rwa [same]
  · exact sound.updateLink stored
  · exact sound.apply added

/-- A user who is found has the identifier that was asked for. -/
theorem id_of_userById {id : Uuid} {u : User}
    (h : b.answer (.userById id) = .ok (.ok u, b')) : u.id = id := by
  rcases answer_cases h with ⟨e, he, -⟩ | h
  · cases he
  · simp only [perform] at h
    cases hu : (b.record (.userById id)).tables.userById? id with
    | none =>
      rw [hu] at h
      cases h
    | some v =>
      rw [hu] at h
      cases h
      exact (Tables.userById?_eq_some hu).2

theorem found_eq_ok {α : Type} {x : Option α} {a : α} (h : found x = .ok a) : x = some a := by
  cases x with
  | none => cases h
  | some a' =>
    cases h
    rfl

/-- A user who is found under an address is one of the tables. -/
theorem userByEmail?_of_answer {email : String} {u : User}
    (h : b.answer (.userByEmail email) = .ok (.ok u, b')) :
    b.tables.userByEmail? email = some u := by
  rcases answer_cases h with ⟨e, he, -⟩ | h
  · cases he
  · injection h with h
    injection h with h _
    exact found_eq_ok h

/-- A link that is found is one of the tables. -/
theorem link?_of_answer {id : Uuid} {issuer : String} {l : Link}
    (h : b.answer (.linkOf id issuer) = .ok (.ok l, b')) : b.tables.link? id issuer = some l := by
  rcases answer_cases h with ⟨e, he, -⟩ | h
  · cases he
  · injection h with h
    injection h with h _
    exact found_eq_ok h

/-- Tokens that are accepted are stored. -/
theorem updateLink_of_answer {l : Link} (h : b.answer (.updateLink l) = .ok (.ok (), b')) :
    b.tables.updateLink l = .ok b'.tables := by
  rcases answer_cases h with ⟨e, he, -⟩ | h
  · cases he
  · simp only [perform, updateLink, record_tables] at h
    split at h
    · next t stored =>
      cases h
      exact stored
    · cases h

/-- A commit that is accepted adds the rows of the unit of work. -/
theorem apply_of_answer (h : b.answer .commit = .ok (.ok (), b')) :
    b.work.apply b.tables = .ok b'.tables := by
  rcases answer_cases h with ⟨e, he, -⟩ | h
  · cases he
  · injection h with h
    rw [commit_eq, record_work, record_tables] at h
    split at h
    · cases h
    · split at h
      · next t added =>
        cases h
        exact added
      · cases h

/-! ## Session values -/

/-- A session value after a call is one that the call stored, or was there before. -/
theorem mem_sessions_of_answer (h : b.answer c = .ok (a, b')) {key : String} {e : Session.Entry}
    (he : (key, e) ∈ b'.sessions.entries) :
    (key, e) ∈ b.sessions.entries ∨ ∃ lifetime, ⟨c, a⟩ = Answered.stored key e.value lifetime := by
  by_cases hc : touchesStores c = false
  · rw [(sameStores_answer hc h).sessions] at he
    exact .inl he
  rcases answer_cases h with ⟨e, -, rfl⟩ | h
  · exact .inl he
  cases c with
  | loadSession k =>
    simp only [perform, loadSession] at h
    split at h <;> cases h
    · exact .inl he
    · exact .inl (Session.Store.mem_of_mem_load he)
  | deleteSession k =>
    simp only [perform, deleteSession] at h
    split at h <;> cases h
    · exact .inl he
    · exact .inl (Session.Store.mem_of_mem_erase he)
  | storeSession k value lifetime =>
    simp only [perform, storeSession] at h
    split at h
    · cases h
      exact .inl he
    · split at h <;> cases h
      next hs =>
        refine (Session.Store.mem_of_store? hs he).imp_right ?_
        rintro ⟨rfl, rfl⟩
        exact ⟨lifetime, rfl⟩
  | updateLink l =>
    simp only [perform, updateLink] at h
    split at h <;> (cases h; exact .inl he)
  | commit =>
    injection h with h
    rw [commit_eq] at h
    split at h
    · cases h; exact .inl he
    · split at h <;> (cases h; exact .inl he)
  | begin => cases h; exact .inl he
  | insertUser u =>
    simp only [perform, insert] at h
    split at h <;> (cases h; exact .inl he)
  | insertLink l =>
    simp only [perform, insert] at h
    split at h <;> (cases h; exact .inl he)
  | _ => exact absurd rfl hc

/-- A session value that is found was stored under its key. -/
theorem exists_of_loadSession {key value : String}
    (h : b.answer (.loadSession key) = .ok (.ok (some value), b')) :
    ∃ e, (key, e) ∈ b.sessions.entries ∧ e.value = value := by
  rcases answer_cases h with ⟨e, he, -⟩ | h
  · cases he
  · simp only [perform, loadSession, record_sessions] at h
    split at h
    · cases h
    · have held : (b.sessions.load b.uptime key).1 = some value := by
        injection h with h
        injection h with h _
        injection h with h
      exact Session.Store.exists_of_load held

/-- A session value that is accepted is stored. -/
theorem store?_of_answer {key value : String} {lifetime : Option Nat}
    (h : b.answer (.storeSession key value lifetime) = .ok (.ok (), b')) :
    b.sessions.store? b.uptime key value (lifetime.map (· * 1000000000)) = some b'.sessions := by
  rcases answer_cases h with ⟨e, he, -⟩ | h
  · cases he
  · simp only [perform, storeSession] at h
    split at h
    · cases h
    · split at h <;> cases h
      next stored => exact stored

/-- A deletion that is accepted takes the key out of the store. -/
theorem erase_of_answer {key : String} (h : b.answer (.deleteSession key) = .ok (.ok (), b')) :
    b'.sessions = b.sessions.erase key := by
  rcases answer_cases h with ⟨e, he, -⟩ | h
  · cases he
  · simp only [perform, deleteSession] at h
    split at h <;> cases h
    rfl

/-- After a deletion nothing is stored under the key. -/
theorem not_mem_of_deleteSession {key : String}
    (h : b.answer (.deleteSession key) = .ok (.ok (), b')) (e : Session.Entry) :
    (key, e) ∉ b'.sessions.entries := by
  rw [erase_of_answer h]
  exact Session.Store.not_mem_erase _ key e

/-! ## Units of work -/

theorem work_of_begin (h : b.answer .begin = .ok (.ok (), b')) : b'.work = {} := by
  rcases answer_cases h with ⟨e, he, -⟩ | h
  · cases he
  · cases h
    rfl

/-- A user who was accepted is in the unit of work. -/
theorem work_of_insertUser {u : User} (h : b.answer (.insertUser u) = .ok (.ok (), b')) :
    b'.work = { b.work with users := b.work.users ++ [u] } := by
  rcases answer_cases h with ⟨e, he, -⟩ | h
  · cases he
  · simp only [perform, insert, record_work] at h
    split at h <;> cases h
    next w hw => exact UnitOfWork.eq_of_insertUser hw

/-- A link that was accepted is in the unit of work. -/
theorem work_of_insertLink {l : Link} (h : b.answer (.insertLink l) = .ok (.ok (), b')) :
    b'.work = { b.work with links := b.work.links ++ [l] } := by
  rcases answer_cases h with ⟨e, he, -⟩ | h
  · cases he
  · simp only [perform, insert, record_work] at h
    split at h <;> cases h
    next w hw => exact UnitOfWork.eq_of_insertLink hw

/-! ## No failures -/

/-- No failure of storage is scripted. -/
def Quiet (b : Backend) : Prop := ∀ q ∈ b.faults.storage, ∀ f ∈ q.2, f = none

/-- Where nothing is scripted, no call is due to fail. -/
theorem Quiet.next_eq_none (h : b.Quiet) (point : Point) : b.faults.next point = none := by
  unfold Faults.next
  cases hl : b.faults.storage.lookup point with
  | none => rfl
  | some queue =>
    cases queue with
    | nil => rfl
    | cons f rest =>
      -- What is looked up is an entry of the list, and all its failures are none.
      obtain ⟨before, after, e, -⟩ := List.lookup_eq_some_iff.1 hl
      exact h (point, f :: rest) (by simp [e]) f List.mem_cons_self

/-- Where nothing is scripted, nothing is after the next call. -/
theorem Quiet.record (h : b.Quiet) (c : Call) : (b.record c).Quiet := by
  unfold Backend.record
  cases point? c with
  | none => exact h
  | some point =>
    intro q hq f hf
    obtain ⟨q', hq', rfl⟩ := List.mem_map.1 hq
    split at hf
    · exact h q' hq' f (List.mem_of_mem_drop hf)
    · exact h q' hq' f hf

/-- Where nothing is scripted, every call reaches the surroundings. -/
theorem answer_of_quiet (h : b.Quiet) (c : Call) : b.answer c = (b.record c).perform c := by
  refine answer_of_dueFault_none ?_
  unfold dueFault
  cases point? c with
  | none => rfl
  | some point => exact h.next_eq_none point

/-! ## Effects on accounts -/

/-- The calls on users and links, and those that touch nothing. All of them are answered. -/
def onAccounts : Call → Bool
  | .now | .newUserId | .log _ _ => true
  | .userById _ | .userByEmail _ | .linkOf _ _ | .updateLink _ => true
  | .begin | .insertUser _ | .insertLink _ | .commit => true
  | _ => false

/-- What is answered to a call when no failure is scripted, and what becomes of the tables and of
the unit of work. -/
inductive Effect (t : Tables) (w : UnitOfWork) :
    (c : Call) → c.Answer → Tables → UnitOfWork → Prop
  | now (i : Time.Instant) : Effect t w .now i t w
  | newUserId (id : Uuid) : Effect t w .newUserId id t w
  | log (level : Level) (text : String) : Effect t w (.log level text) () t w
  | userById (id : Uuid) : Effect t w (.userById id) (found (t.userById? id)) t w
  | userByEmail (email : String) :
      Effect t w (.userByEmail email) (found (t.userByEmail? email)) t w
  | linkOf (id : Uuid) (issuer : String) :
      Effect t w (.linkOf id issuer) (found (t.link? id issuer)) t w
  | updated {l : Link} {t' : Tables} : t.updateLink l = .ok t' →
      Effect t w (.updateLink l) (.ok ()) t' w
  | notUpdated {l : Link} {e : StorageError} : t.updateLink l = .error e →
      Effect t w (.updateLink l) (.error e) t w
  | began : Effect t w .begin (.ok ()) t {}
  | insertedUser {u : User} {w' : UnitOfWork} : w.insertUser u = .ok w' →
      Effect t w (.insertUser u) (.ok ()) t w'
  | notInsertedUser {u : User} {e : StorageError} : w.insertUser u = .error e →
      Effect t w (.insertUser u) (.error e) t w
  | insertedLink {l : Link} {w' : UnitOfWork} : w.insertLink l = .ok w' →
      Effect t w (.insertLink l) (.ok ()) t w'
  | notInsertedLink {l : Link} {e : StorageError} : w.insertLink l = .error e →
      Effect t w (.insertLink l) (.error e) t w
  | committed {t' : Tables} : w.finished = false → w.apply t = .ok t' →
      Effect t w .commit (.ok ()) t' { w with finished := true }
  | notCommitted {e : StorageError} : w.finished = false → w.apply t = .error e →
      Effect t w .commit (.error e) t { w with finished := true }
  | closed : w.finished = true → Effect t w .commit (.error .transactionClosed) t w

/-- A call on users and links is answered from the tables and changes only them and the unit of
work. -/
theorem effect_of_answer (quiet : b.Quiet) (hc : onAccounts c = true)
    (h : b.answer c = .ok (a, b')) :
    Effect b.tables b.work c a b'.tables b'.work ∧ b'.Quiet := by
  rw [answer_of_quiet quiet] at h
  have still := quiet.record c
  cases c with
  | updateLink l =>
    simp only [perform, updateLink, record_tables] at h
    split at h
    · next t ht => cases h; exact ⟨.updated ht, still⟩
    · next e he => cases h; exact ⟨.notUpdated he, still⟩
  | insertUser u =>
    simp only [perform, insert, record_work] at h
    split at h
    · next w hw => cases h; exact ⟨.insertedUser hw, still⟩
    · next e he => cases h; exact ⟨.notInsertedUser he, still⟩
  | insertLink l =>
    simp only [perform, insert, record_work] at h
    split at h
    · next w hw => cases h; exact ⟨.insertedLink hw, still⟩
    · next e he => cases h; exact ⟨.notInsertedLink he, still⟩
  | commit =>
    injection h with h
    rw [commit_eq, record_work, record_tables] at h
    split at h
    · next hf => cases h; exact ⟨.closed hf, still⟩
    · next hf =>
      have notFinished : b.work.finished = false := by simpa using hf
      split at h
      · next t ht => cases h; exact ⟨.committed notFinished ht, still⟩
      · next e he => cases h; exact ⟨.notCommitted notFinished he, still⟩
  | now => cases h; exact ⟨.now _, still⟩
  | newUserId => cases h; exact ⟨.newUserId _, still⟩
  | log level text => cases h; exact ⟨.log level text, still⟩
  | userById id => cases h; exact ⟨.userById id, still⟩
  | userByEmail email => cases h; exact ⟨.userByEmail email, still⟩
  | linkOf id issuer => cases h; exact ⟨.linkOf id issuer, still⟩
  | begin => cases h; exact ⟨.began, still⟩
  | _ => cases hc

/-- A call on users and links is answered. -/
theorem exists_answer (b : Backend) (hc : onAccounts c = true) :
    ∃ a b', b.answer c = .ok (a, b') := by
  unfold answer
  split
  · next refusal _ => exact ⟨refusal, b.record c, rfl⟩
  · cases c <;> first | exact ⟨_, _, rfl⟩ | cases hc

end Backend

end FederatedLogin
