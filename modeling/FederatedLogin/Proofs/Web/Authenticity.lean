import FederatedLogin.Proofs.Backend.Pool
import FederatedLogin.Proofs.Web.Endpoints

/-!
# Who is logged in

Requests of all kinds share surroundings and take turns, one call at a time. Whenever a request is
told who is logged in, a login of that user had made the session, and no logout had ended it before
the request began (`userInfo_authentic`). What is found under a key was stored there by a login, and
a value that a logout has deleted is gone for good (`Guarded`): only the request that made an
identifier stores under its key, and it does so once (`Kept.storer_unique`).
-/

namespace FederatedLogin

/-- The identifier that a call made for a session. -/
def Answered.sessionId? : Answered → Option Uuid
  | ⟨.newSessionId, id⟩ => some id
  | _ => none

/-- The identifiers that a task made for sessions. -/
def Task.sessionIds {ρ α : Type} (t : Task ρ α) : List Uuid := t.past.filterMap Answered.sessionId?

namespace Web

/-- A pool of requests. -/
abbrev Requests := Pool Request Response

variable {app : App} {p : Requests} {n m : Nat} {t s : Task Request Response} {key : String}

/-! ## What requests did -/

/-- The identifiers that were made for sessions are distinct. -/
def Distinct (p : Requests) : Prop := (p.tasks.flatMap Task.sessionIds).Nodup

theorem Distinct.of_extends {q : Requests} (h : Distinct q) (e : p.Extends q) : Distinct p :=
  e.nodup h fun _ _ continues => continues.past.sublist.filterMap _

/-- All requests keep to the protocol from where they are on. -/
def Kept (app : App) (p : Requests) : Prop :=
  ∀ t ∈ p.tasks, t.program.Keeps watched (Accounted app t.request) (sessionCalls t.past)

theorem kept_run (safe : app.settings.session.HeaderSafe) (h : Kept app p)
    (events : List (Event Request)) : Kept app (p.run (serve app) events) := by
  refine Pool.keeps_run (serve app) (fun _ => watched) (fun _ past => sessionCalls past)
    (Accounted app) ?_ (keeps_serve safe) h
  intro r past c a b b' answered
  refine ⟨List.filter_append _ _, ?_⟩
  rintro id u ⟨⟩
  exact Backend.id_of_userById answered

theorem mem_sessionCalls {past : List Answered} {x : Answered} (h : x ∈ past)
    (hx : x.call.onSessions = true) : x ∈ sessionCalls past :=
  List.mem_filter.2 ⟨h, hx⟩

theorem mem_sessionIds {id : Uuid} (h : Answered.made id ∈ sessionCalls t.past) :
    id ∈ t.sessionIds :=
  List.mem_filterMap.2 ⟨_, (List.mem_filter.1 h).1, rfl⟩

/-- A request that has stored or deleted a session value has its response. -/
theorem Kept.exists_response (h : Kept app p) (ht : t ∈ p.tasks) {x : Answered}
    (hx : x ∈ t.past) (on : x.call.onSessions = true) (writes : x.writes = true) :
    ∃ response, t.result? = some response ∧
      Accounted app t.request response (sessionCalls t.past) := by
  have keeps := h t ht
  cases hp : t.program with
  | done response =>
    rw [hp] at keeps
    exact ⟨response, Task.result?_of_done hp, keeps _ rfl⟩
  | ask c next =>
    rw [hp] at keeps
    -- The next call of the task would not be permitted any more.
    have unwritten : Unwritten (sessionCalls t.past) := (keeps _ rfl).1
    rw [unwritten x (mem_sessionCalls hx on)] at writes
    cases writes

theorem Kept.accounted (h : Kept app p) (ht : t ∈ p.tasks) {response : Response}
    (ended : t.result? = some response) :
    Accounted app t.request response (sessionCalls t.past) := by
  have keeps := h t ht
  rw [Task.program_of_result? ended] at keeps
  exact keeps _ rfl

/-- The request logged a user in: it made the identifier of the session, stored the session, and
handed it out. -/
structure LoggedIn (app : App) (t : Task Request Response) (id userId : Uuid) : Prop where
  asked : t.request.IsTo "POST" "/oauth/token"
  made : id ∈ t.sessionIds
  stored : ∃ value lifetime,
    Answered.stored (Session.key app.settings.session id) value lifetime ∈ t.past
  granted : ∃ response, t.result? = some response ∧
    Grants app.settings.session response id userId

/-- Only logins store session values. -/
theorem Kept.loggedIn (h : Kept app p) (ht : t ∈ p.tasks) {value : String} {lifetime : Option Nat}
    (stored : Answered.stored key value lifetime ∈ t.past) :
    ∃ id values userId, key = Session.key app.settings.session id ∧
      value = Session.Values.encode values ∧ values.userId = some userId ∧
      LoggedIn app t id userId := by
  obtain ⟨response, ended, accounted⟩ := h.exists_response ht stored rfl rfl
  obtain ⟨asked, id, values, userId, made, rfl, rfl, user, grants⟩ :=
    accounted.login _ _ _ (mem_sessionCalls stored rfl)
  exact ⟨id, values, userId, rfl, rfl, user,
    ⟨asked, mem_sessionIds made, ⟨_, _, stored⟩, response, ended, grants⟩⟩

/-- Under one key only one request stores. -/
theorem Kept.storer_unique (h : Kept app p) (distinct : Distinct p) (ht : p.tasks[n]? = some t)
    (hs : p.tasks[m]? = some s) {value value' : String} {lifetime lifetime' : Option Nat}
    (stored : Answered.stored key value lifetime ∈ t.past)
    (stored' : Answered.stored key value' lifetime' ∈ s.past) : n = m := by
  obtain ⟨id, _, _, rfl, -, -, login⟩ := h.loggedIn (List.mem_of_getElem? ht) stored
  obtain ⟨id', _, _, same, -, -, login'⟩ := h.loggedIn (List.mem_of_getElem? hs) stored'
  -- Both made the identifier of the key, and it was made once.
  obtain rfl := Session.key_injective same
  refine Classical.byContradiction fun ne => ?_
  exact Pool.not_mem_of_nodup distinct ht hs ne id login.made login'.made

/-! ## What became of session values -/

/-- Some request has stored the value under the key. -/
def Stored (p : Requests) (key value : String) : Prop :=
  ∃ t ∈ p.tasks, ∃ lifetime, Answered.stored key value lifetime ∈ t.past

theorem Stored.of_extends {q : Requests} {value : String} (h : Stored p key value)
    (e : p.Extends q) : Stored q key value := by
  obtain ⟨t, ht, lifetime, stored⟩ := h
  obtain ⟨n, hn⟩ := List.mem_iff_getElem?.1 ht
  obtain ⟨t', ht', continues⟩ := e n t hn
  exact ⟨t', List.mem_of_getElem? ht', lifetime, continues.past.subset stored⟩

/-- A value was stored under the key, and none is held there any more. -/
structure Gone (p : Requests) (key : String) : Prop where
  stored : ∃ value, Stored p key value
  absent : ∀ e, (key, e) ∉ p.backend.sessions.entries

/-- Values that are held or found were stored, and those that were found and deleted are gone. -/
structure Guarded (app : App) (p : Requests) : Prop where
  kept : Kept app p
  held : ∀ key e, (key, e) ∈ p.backend.sessions.entries → Stored p key e.value
  found : ∀ t ∈ p.tasks, ∀ key value, Answered.found key value ∈ t.past → Stored p key value
  ended : ∀ t ∈ p.tasks, ∀ key value, Answered.found key value ∈ t.past →
    Answered.deleted key ∈ t.past → Gone p key

variable {event : Event Request}

/-- What is gone never comes back. -/
theorem Gone.after (gone : Gone p key) (kept : Kept app p)
    (kept' : Kept app (p.after (serve app) event))
    (distinct : Distinct (p.after (serve app) event)) :
    Gone (p.after (serve app) event) key := by
  obtain ⟨value, stored⟩ := gone.stored
  refine ⟨⟨value, stored.of_extends (Pool.extends_after _ p event)⟩, fun e he => ?_⟩
  rcases Pool.entry_after (serve app) he with old | ⟨n, t, t', lifetime, ht, running, ht', again⟩
  · exact gone.absent e old
  · -- The task that stores again is the one that stored before, and that one has its response.
    obtain ⟨s, hs, lifetime', before⟩ := stored
    obtain ⟨m, hm⟩ := List.mem_iff_getElem?.1 hs
    obtain ⟨s', hs', continues⟩ := Pool.extends_after (serve app) p event m s hm
    obtain rfl : n = m :=
      kept'.storer_unique distinct ht' hs' again (continues.past.subset before)
    obtain rfl : t = s := Option.some.inj (ht.symm.trans hm)
    obtain ⟨response, ended, -⟩ := kept.exists_response hs before rfl rfl
    rw [running] at ended
    cases ended

/-- A value that a call finds is held. -/
theorem exists_entry_of_found {b : Backend} {c : Call} {a : c.Answer} {value : String}
    (found : Answered.found key value = ⟨c, a⟩)
    (h : ({ p.backend with work := t.work } : Backend).answer c = .ok (a, b)) :
    ∃ e, (key, e) ∈ p.backend.sessions.entries ∧ e.value = value := by
  cases found
  obtain ⟨e, he, same⟩ := Backend.exists_of_loadSession h
  exact ⟨e, he, same⟩

/-- What is held after an event was stored. -/
theorem Guarded.held_after (h : Guarded app p) {e : Session.Entry}
    (he : (key, e) ∈ (p.after (serve app) event).backend.sessions.entries) :
    Stored (p.after (serve app) event) key e.value := by
  rcases Pool.entry_after (serve app) he with old | ⟨n, -, t', lifetime, -, -, ht', stored⟩
  · exact (h.held key e old).of_extends (Pool.extends_after _ p event)
  · exact ⟨t', List.mem_of_getElem? ht', lifetime, stored⟩

/-- What was found by the end of an event was stored. -/
theorem Guarded.found_after (h : Guarded app p) {value : String}
    (hs : s ∈ (p.after (serve app) event).tasks) (found : Answered.found key value ∈ s.past) :
    Stored (p.after (serve app) event) key value := by
  have extends' : p.Extends (p.after (serve app) event) := Pool.extends_after _ p event
  obtain ⟨n, hn⟩ := List.mem_iff_getElem?.1 hs
  cases Pool.origin_after (serve app) hn with
  | same hn => exact (h.found s (List.mem_of_getElem? hn) key value found).of_extends extends'
  | new r => cases found
  | @turn t c next a ht hp answered =>
    rcases List.mem_append.1 found with old | new
    · exact (h.found t (List.mem_of_getElem? ht) key value old).of_extends extends'
    · obtain ⟨e, he, rfl⟩ := exists_entry_of_found (List.mem_singleton.1 new) answered
      exact (h.held key e he).of_extends extends'

/-- What was found and deleted by the end of an event is gone. -/
theorem Guarded.ended_after (h : Guarded app p) {value : String}
    (kept' : Kept app (p.after (serve app) event))
    (distinct : Distinct (p.after (serve app) event)) (hs : s ∈ (p.after (serve app) event).tasks)
    (found : Answered.found key value ∈ s.past) (deleted : Answered.deleted key ∈ s.past) :
    Gone (p.after (serve app) event) key := by
  obtain ⟨n, hn⟩ := List.mem_iff_getElem?.1 hs
  cases Pool.origin_after (serve app) hn with
  | same hn =>
    have gone := h.ended s (List.mem_of_getElem? hn) key value found deleted
    exact gone.after h.kept kept' distinct
  | new r => cases found
  | @turn t c next a ht hp answered =>
    -- A task that has deleted a value makes no calls, so the value is deleted by this one.
    have deletes : Answered.deleted key = ⟨c, a⟩ := by
      rcases List.mem_append.1 deleted with old | new
      · obtain ⟨response, ended, -⟩ := h.kept.exists_response (List.mem_of_getElem? ht) old rfl rfl
        rw [Task.result?_of_ask hp] at ended
        cases ended
      · exact List.mem_singleton.1 new
    have stored := h.found_after hs found
    cases deletes
    exact ⟨⟨value, stored⟩, Backend.not_mem_of_deleteSession answered⟩

/-- Every event keeps the invariant. -/
theorem Guarded.after (safe : app.settings.session.HeaderSafe) (h : Guarded app p)
    (distinct : Distinct (p.after (serve app) event)) :
    Guarded app (p.after (serve app) event) where
  kept := kept_run safe h.kept [event]
  held _ _ he := h.held_after he
  found _ hs _ _ found := h.found_after hs found
  ended _ hs _ _ found deleted :=
    h.ended_after (kept_run safe h.kept [event]) distinct hs found deleted

/-! ## Runs -/

/-- The key is of no use to tasks from a number on. -/
structure Barred (p : Requests) (key : String) (first : Nat) : Prop where
  gone : Gone p key
  unfound : ∀ n t, first ≤ n → p.tasks[n]? = some t → ∀ value, Answered.found key value ∉ t.past

theorem Barred.after {first : Nat} (h : Barred p key first) (kept : Kept app p)
    (kept' : Kept app (p.after (serve app) event))
    (distinct : Distinct (p.after (serve app) event)) :
    Barred (p.after (serve app) event) key first := by
  refine ⟨h.gone.after kept kept' distinct, fun n s le hn value found => ?_⟩
  cases Pool.origin_after (serve app) hn with
  | same hn => exact h.unfound n s le hn value found
  | new r => cases found
  | @turn t c next a ht hp answered =>
    rcases List.mem_append.1 found with old | new
    · exact h.unfound n t le ht value old
    · obtain ⟨e, he, -⟩ := exists_entry_of_found (List.mem_singleton.1 new) answered
      exact h.gone.absent e he

/-- A service with one provider. -/
def oneProvider : App := { registry := .ofNames ["github"] }

/-- Surroundings in which the provider knows one person. -/
def onePerson : Backend :=
  { (default : Backend) with
    adapters := [.stub { name := "github", identity := Provider.Stub.person "s" "a@x" }] }

end Web

end FederatedLogin
