import FederatedLogin.Proofs.Backend.Answer
import FederatedLogin.Proofs.Backend.Shown

/-!
# Moments

A moment is all that decides about the answer to a call besides what is stored: the time, the
identifiers to come, whether a store fails, and what a provider answers. The surroundings kept in
memory never answer anything else than in some moment (`Moment.exists_answer`). What may be shown
after a call is made from what may be shown of the moment, of the stores and of the call
(`Moment.view_answer`).
-/

namespace FederatedLogin

/-- What is outside the stores when a call is made: the time, the identifiers to come, the failures
of stores, and what a provider answers. -/
structure Moment where
  now : Time.Instant := default
  /-- The clock of the session store. -/
  uptime : Nat := 0
  hostname : Option String := none
  userId : Uuid := default
  sessionId : Uuid := default
  /-- The failure of storage of users and links. -/
  storage : Option StorageError := none
  /-- The failure of the session store. -/
  sessions : Option Session.Error := none
  tokens : Except Provider.Error TokenSet := .error (.exchangeFailed "")
  identity : Except Provider.Error Identity := .error (.identityFailed "")

namespace Moment

/-- The moment without tokens and texts of errors. -/
def shown (m : Moment) : Moment :=
  { m with
    storage := m.storage.map StorageError.shown
    sessions := m.sessions.map Session.Error.shown
    tokens := shownBy Provider.Error.shown TokenSet.shown m.tokens
    identity := shownBy Provider.Error.shown id m.identity }

/-- The surroundings in the moment. -/
def around (m : Moment) (b : Backend) : Backend := { b with uptime := m.uptime, faults := {} }

/-- The answer to a call of a store, which may fail. -/
def answerStored (m : Moment) (b : Backend) (c : Call) (failure : Option c.Answer) :
    Except Backend.Halt (c.Answer × Backend) :=
  match failure with
  | some a => .ok (a, b)
  | none => (m.around b).perform c

/-- The answer to a call. -/
def answer (m : Moment) (b : Backend) : (c : Call) → Except Backend.Halt (c.Answer × Backend)
  | .now => .ok (m.now, b)
  | .newUserId => .ok (m.userId, b)
  | .newSessionId => .ok (m.sessionId, b)
  | .hostname => .ok (m.hostname, b)
  | .log _ _ => .ok ((), b)
  | .exchange _ _ => .ok (m.tokens, b)
  | .identity _ _ => .ok (m.identity, b)
  | .loadSession key => m.answerStored b (.loadSession key) (m.sessions.map .error)
  | .storeSession key value lifetime =>
    m.answerStored b (.storeSession key value lifetime) (m.sessions.map .error)
  | .deleteSession key => m.answerStored b (.deleteSession key) (m.sessions.map .error)
  | c => m.answerStored b c (m.storage.bind (Backend.refusal? c))

/-- What may be shown after a call depends on what may be shown before it. -/
theorem view_answer (m : Moment) (b : Backend) (c : Call) :
    Backend.view (m.answer b c)
      = (m.shown.answer b.shown c.shown).map fun r => (heard c.shown r.1, r.2) := by
  obtain ⟨now, uptime, hostname, userId, sessionId, storage, sessions, tokens, identity⟩ := m
  cases c with
  | now => rfl
  | newUserId => rfl
  | newSessionId => rfl
  | hostname => rfl
  | log level text => rfl
  | exchange n grant =>
    cases tokens with
    | ok tokens => rfl
    | error e => cases e <;> rfl
  | identity n token =>
    cases identity with
    | ok identity => rfl
    | error e => cases e <;> rfl
  | loadSession key =>
    cases sessions with
    | none => exact Backend.view_perform _ nofun nofun
    | some e => cases e <;> rfl
  | storeSession key value lifetime =>
    cases sessions with
    | none =>
      exact Backend.view_perform (c := .storeSession key value lifetime)
        { b with uptime := uptime, faults := {} } nofun nofun
    | some e => cases e <;> rfl
  | deleteSession key =>
    cases sessions with
    | none => exact Backend.view_perform _ nofun nofun
    | some e => cases e <;> rfl
  | _ =>
    -- Storage of users and links fails, or the call reaches it.
    cases storage with
    | none => exact Backend.view_perform _ nofun nofun
    | some e => cases e <;> rfl

/-- Where all looks the same before two calls, both are left unanswered, or the answers sound the
same and all looks the same after them. -/
theorem answer_pair_cases {m m' : Moment} {b b' : Backend} {c c' : Call}
    (moments : m.shown = m'.shown) (stores : b.shown = b'.shown) (calls : c.shown = c'.shown) :
    (∃ halt halt', m.answer b c = .error halt ∧ m'.answer b' c' = .error halt') ∨
      ∃ a d a' d', m.answer b c = .ok (a, d) ∧ m'.answer b' c' = .ok (a', d') ∧
        heard c a = heard c' a' ∧ d.shown = d'.shown := by
  have views : Backend.view (m.answer b c) = Backend.view (m'.answer b' c') := by
    rw [view_answer, view_answer, moments, stores, calls]
  cases ha : m.answer b c with
  | error halt =>
    cases ha' : m'.answer b' c' with
    | error halt' => exact .inl ⟨halt, halt', rfl, rfl⟩
    | ok r' =>
      rw [ha, ha'] at views
      cases views
  | ok r =>
    cases ha' : m'.answer b' c' with
    | error halt' =>
      rw [ha, ha'] at views
      cases views
    | ok r' =>
      rw [ha, ha'] at views
      obtain ⟨sounds, looks⟩ := Prod.mk.inj (Except.ok.inj views)
      exact .inr ⟨r.1, r.2, r'.1, r'.2, rfl, rfl, sounds, looks⟩

end Moment

/-! ## Answers kept in memory -/

namespace Backend

/-- Other surroundings without failures, with the stores and the clock of the session store of these
surroundings. -/
def carriedTo (b d : Backend) : Backend :=
  { d with
    tables := b.tables, work := b.work, sessions := b.sessions, uptime := b.uptime, faults := {} }

theorem carriedTo_insert (b d : Backend) (r : Except StorageError UnitOfWork) :
    (b.carriedTo d).insert r = ((b.insert r).1, (b.insert r).2.carriedTo d) := by
  cases r <;> rfl

/-- The failure that a call of the session store meets. -/
def sessionFault? (b : Backend) : Call → Option String
  | .loadSession _ => b.faults.load
  | .storeSession _ _ _ => b.faults.store
  | .deleteSession _ => b.faults.delete
  | _ => none

/-- The call is answered from the stores. -/
def readsStores : Call → Bool
  | .userById _ | .userByEmail _ | .linkOf _ _ => true
  | c => touchesStores c

/-- What is answered from the stores depends on nothing but them and their clock, unless the session
store fails. -/
theorem perform_carriedTo {b : Backend} (d : Backend) {c : Call} (stored : readsStores c = true)
    (works : b.sessionFault? c = none) :
    (b.carriedTo d).perform c = (b.perform c).map fun r => (r.1, r.2.carriedTo d) := by
  cases c with
  | userById id => rfl
  | userByEmail email => rfl
  | linkOf userId issuer => rfl
  | begin => rfl
  | commit => rfl
  | updateLink l =>
    show Except.ok ((b.carriedTo d).updateLink l)
      = .ok ((b.updateLink l).1, (b.updateLink l).2.carriedTo d)
    have tables : (b.carriedTo d).tables = b.tables := rfl
    unfold updateLink
    rw [tables]
    cases b.tables.updateLink l <;> rfl
  | insertUser u => exact congrArg Except.ok (carriedTo_insert b d (b.work.insertUser u))
  | insertLink l => exact congrArg Except.ok (carriedTo_insert b d (b.work.insertLink l))
  | loadSession key =>
    have works : b.faults.load = none := works
    show _ = Except.ok ((b.loadSession key).1, (b.loadSession key).2.carriedTo d)
    unfold loadSession
    rw [works]
    rfl
  | storeSession key value lifetime =>
    have works : b.faults.store = none := works
    have same : (b.carriedTo d).sessions.store? (b.carriedTo d).uptime key value
        = b.sessions.store? b.uptime key value := rfl
    show (b.carriedTo d).storeSession key value lifetime = (b.storeSession key value lifetime).map _
    unfold storeSession
    rw [works, same]
    cases b.sessions.store? b.uptime key value (lifetime.map (· * 1000000000)) <;> rfl
  | deleteSession key =>
    have works : b.faults.delete = none := works
    show _ = Except.ok ((b.deleteSession key).1, (b.deleteSession key).2.carriedTo d)
    unfold deleteSession
    rw [works]
    rfl
  | _ => cases stored

end Backend

namespace Moment

open Backend

/-- A session store that fails answers as in a moment in which it fails. -/
theorem answer_of_sessionFault {b b' d : Backend} {c : Call} {a : c.Answer} {cause : String}
    (fault : b.sessionFault? c = some cause) (h : b.perform c = .ok (a, b')) :
    b' = b ∧ answer { sessions := some (.store cause) } d c = .ok (a, d) := by
  cases c with
  | loadSession key =>
    have fault : b.faults.load = some cause := fault
    simp only [perform, loadSession, fault] at h
    cases h
    exact ⟨rfl, rfl⟩
  | storeSession key value lifetime =>
    have fault : b.faults.store = some cause := fault
    simp only [perform, storeSession, fault] at h
    cases h
    exact ⟨rfl, rfl⟩
  | deleteSession key =>
    have fault : b.faults.delete = some cause := fault
    simp only [perform, deleteSession, fault] at h
    cases h
    exact ⟨rfl, rfl⟩
  | _ => cases fault

/-- An answer of the surroundings kept in memory is an answer in some moment, and leaves the same
stores. -/
theorem exists_answer {b b' d : Backend} {c : Call} {a : c.Answer} (same : SameStores b d)
    (h : b.answer c = .ok (a, b')) :
    ∃ (m : Moment) (d' : Backend), m.answer d c = .ok (a, d') ∧ SameStores b' d' := by
  have recorded : SameStores (b.record c) d := ⟨same.tables, same.sessions, same.work⟩
  have kept (apart : touchesStores c = false) : SameStores b' d :=
    (sameStores_answer apart h).symm.trans same
  rcases answer_cases h with ⟨e, refused, rfl⟩ | performed
  · -- Storage was told to fail.
    refine ⟨{ storage := some e }, d, ?_, recorded⟩
    cases c <;> first | (cases refused; rfl) | cases refused
  cases fault : (b.record c).sessionFault? c with
  | some cause =>
    obtain ⟨rfl, failed⟩ := answer_of_sessionFault (d := d) fault performed
    exact ⟨{ sessions := some (.store cause) }, d, failed, recorded⟩
  | none =>
    have stored (reads : readsStores c = true) :
        (around { uptime := b.uptime } d).perform c = .ok (a, b'.carriedTo d) := by
      have carried : around { uptime := b.uptime } d = (b.record c).carriedTo d := by
        unfold around carriedTo
        rw [← recorded.tables, ← recorded.work, ← recorded.sessions]
        rfl
      rw [carried, perform_carriedTo d reads fault, performed]
      rfl
    cases c with
    | now => exact ⟨{ now := a }, d, rfl, kept rfl⟩
    | newUserId => exact ⟨{ userId := a }, d, rfl, kept rfl⟩
    | newSessionId => exact ⟨{ sessionId := a }, d, rfl, kept rfl⟩
    | hostname => exact ⟨{ hostname := a }, d, rfl, kept rfl⟩
    | log level text => exact ⟨{}, d, rfl, kept rfl⟩
    | exchange n grant => exact ⟨{ tokens := a }, d, rfl, kept rfl⟩
    | identity n token => exact ⟨{ identity := a }, d, rfl, kept rfl⟩
    | _ => exact ⟨{ uptime := b.uptime }, b'.carriedTo d, stored rfl, ⟨rfl, rfl, rfl⟩⟩

end Moment
end FederatedLogin
