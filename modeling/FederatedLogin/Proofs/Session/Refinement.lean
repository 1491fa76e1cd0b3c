import FederatedLogin.Proofs.Backend.Alone
import FederatedLogin.Proofs.Session.Request
import FederatedLogin.Proofs.Session.Text
import FederatedLogin.Session.Manager

/-!
# Sessions as a map

Someone may create, load, change and save any number of sessions in any order (`Holder.step`). As
long as no entry of the session store reaches its end, what is found under an identifier are the
values of the last session that was saved with it, unless that session had ended (`kept`). The
invariant is that the store holds the blob of those values under the key of the identifier and
nothing else (`Holder.Agrees`). It is kept by each operation (`agrees_step`), and a look into the
store reads off the map and leaves the store as it is (`gives_get`, `gives_load`). All this is
`sessions_refine_map`.
-/

namespace FederatedLogin

/-! ## Calls of the session store -/

namespace Backend

variable {b b' : Backend} {c : Call}

/-- The session store does not fail. -/
structure KeepsSessions (b : Backend) : Prop where
  load : b.faults.load = none
  store : b.faults.store = none
  delete : b.faults.delete = none

/-- The second surroundings come after the first ones, at the same time, have the session store, and
have made the given number of identifiers for sessions. -/
structure Stores (b : Backend) (s : Session.Store) (n : Nat) (b' : Backend) : Prop where
  keeps : b'.KeepsSessions
  sessions : b'.sessions = s
  uptime : b'.uptime = b.uptime
  sessionId : b'.sessionId = b.sessionId
  sessionIds : b'.sessionIds = b.sessionIds + n

/-- What is stored in two stretches is stored in the end by the second one. -/
theorem Stores.trans {s s' : Session.Store} {n m : Nat} {b₁ b₂ b₃ : Backend}
    (h : b₁.Stores s n b₂) (h' : b₂.Stores s' m b₃) : b₁.Stores s' (n + m) b₃ where
  keeps := h'.keeps
  sessions := h'.sessions
  uptime := h'.uptime.trans h.uptime
  sessionId := h'.sessionId.trans h.sessionId
  sessionIds := by rw [h'.sessionIds, h.sessionIds, Nat.add_assoc]

/-- An identifier for a session is the next one that was not made yet. -/
theorem gives_newSessionId {post : Uuid → Backend → Prop} (keeps : b.KeepsSessions)
    (h : ∀ b', b.Stores b.sessions 1 b' → post (b.sessionId b.sessionIds) b') :
    b.Gives (call .newSessionId) post :=
  gives_of_point? rfl rfl (h _ ⟨⟨keeps.load, keeps.store, keeps.delete⟩, rfl, rfl, rfl, rfl⟩)

/-- A look that leaves the store as it is changes nothing. -/
theorem loadSession_of_load {key : String} {value : Option String} (works : b.faults.load = none)
    (look : b.sessions.load b.uptime key = (value, b.sessions)) :
    b.loadSession key = (.ok value, b) := by
  simp only [loadSession, works, look]

/-- Where no entry has ended, a value is loaded as it stands in the store. -/
theorem loadSession_of_live (works : b.faults.load = none) (live : b.sessions.Live b.uptime)
    (key : String) :
    b.loadSession key = (.ok ((b.sessions.get? key).map Session.Entry.value), b) :=
  loadSession_of_load works (Session.Store.load_of_live live key)

/-- A value is stored if its end exists. -/
theorem storeSession_of_store? {key value : String} {lifetime : Option Nat} {s : Session.Store}
    (works : b.faults.store = none)
    (stored : b.sessions.store? b.uptime key value (lifetime.map (· * 1000000000)) = some s) :
    b.storeSession key value lifetime = .ok (.ok (), { b with sessions := s }) := by
  simp only [storeSession, works, stored]

/-- A value is deleted if the store does not fail. -/
theorem deleteSession_of_works (works : b.faults.delete = none) (key : String) :
    b.deleteSession key = (.ok (), { b with sessions := b.sessions.erase key }) := by
  simp only [deleteSession, works]

/-- A look at a store without ended entries leaves it as it is. -/
theorem gives_loadSession {key : String}
    {post : Except Session.Error (Option String) → Backend → Prop} (keeps : b.KeepsSessions)
    (live : b.sessions.Live b.uptime) (h : ∀ b', b.Stores b.sessions 0 b' →
      post (.ok ((b.sessions.get? key).map Session.Entry.value)) b') :
    b.Gives (call (.loadSession key)) post :=
  gives_of_point? rfl
    (congrArg Except.ok
      (loadSession_of_live (b := b.record (.loadSession key)) keeps.load live key))
    (h _ ⟨⟨keeps.load, keeps.store, keeps.delete⟩, rfl, rfl, rfl, rfl⟩)

/-- Storing a value changes the session store and nothing else. -/
theorem gives_storeSession {key value : String} {lifetime : Option Nat} {s : Session.Store}
    {post : Except Session.Error Unit → Backend → Prop} (keeps : b.KeepsSessions)
    (stored : b.sessions.store? b.uptime key value (lifetime.map (· * 1000000000)) = some s)
    (h : ∀ b', b.Stores s 0 b' → post (.ok ()) b') :
    b.Gives (call (.storeSession key value lifetime)) post :=
  gives_of_point? rfl
    (storeSession_of_store? (b := b.record (.storeSession key value lifetime)) keeps.store stored)
    (h _ ⟨⟨keeps.load, keeps.store, keeps.delete⟩, rfl, rfl, rfl, rfl⟩)

/-- Deleting a value changes the session store and nothing else. -/
theorem gives_deleteSession {key : String} {post : Except Session.Error Unit → Backend → Prop}
    (keeps : b.KeepsSessions) (h : ∀ b', b.Stores (b.sessions.erase key) 0 b' → post (.ok ()) b') :
    b.Gives (call (.deleteSession key)) post :=
  gives_of_point? rfl
    (congrArg Except.ok
      (deleteSession_of_works (b := b.record (.deleteSession key)) keeps.delete key))
    (h _ ⟨⟨keeps.load, keeps.store, keeps.delete⟩, rfl, rfl, rfl, rfl⟩)

end Backend

namespace Session

open Backend

variable {config : Config} {b : Backend}

/-! ## The map -/

/-- The values of the last session that was saved with an identifier, unless that session had ended.
The last one that was saved stands first. -/
def kept (saved : List Session) (id : Uuid) : Option Values :=
  (saved.find? fun s => s.id = id).bind fun s => if s.isEnded then none else some s.values

/-- The last save of a session settles which values it keeps. -/
theorem kept_cons (s : Session) (saved : List Session) (id : Uuid) :
    kept (s :: saved) id =
      if id = s.id then if s.isEnded then none else some s.values else kept saved id := by
  unfold kept
  rw [List.find?_cons]
  by_cases h : id = s.id
  · subst h
    simp
  · have other : decide (s.id = id) = false := decide_eq_false (Ne.symm h)
    rw [other, if_neg h]

/-- The store holds exactly the blobs of the values that are kept. -/
def Holds (config : Config) (store : Store) (saved : List Session) : Prop :=
  ∀ id, (store.get? (key config id)).map Entry.value = (kept saved id).map Values.encode

variable {saved : List Session} {store : Store} {s : Session}

/-- Different sessions have different keys. -/
theorem key_eq_iff {id id' : Uuid} : key config id = key config id' ↔ id = id' :=
  ⟨key_injective, congrArg _⟩

/-- Without the key of a session that is over, the store still holds what was saved. -/
theorem Holds.erase (holds : Holds config store saved) (ended : s.isEnded = true) :
    Holds config (store.erase (key config s.id)) (s :: saved) := by
  intro id
  rw [Store.get?_erase, kept_cons, ended]
  by_cases h : id = s.id
  · simp [h]
  · simp only [key_eq_iff, h, if_false]
    exact holds id

/-- Storing a session changes what is held under its own key only. -/
theorem Holds.put (holds : Holds config store saved) (live : s.isEnded = false)
    (ends : Option Nat) :
    Holds config ⟨(key config s.id, ⟨s.values.encode, ends⟩)
      :: (store.erase (key config s.id)).entries⟩ (s :: saved) := by
  intro id
  rw [Store.get?_cons, Store.get?_erase, kept_cons, live]
  by_cases h : id = s.id
  · simp [h]
  · simp only [key_eq_iff, h, if_false]
    exact holds id

/-! ## Programs -/

/-- A look into the store reads off the map. -/
theorem gives_get (keeps : b.KeepsSessions) (live : b.sessions.Live b.uptime)
    (holds : Holds config b.sessions saved) (id : Uuid) :
    b.Gives (get config id) fun r b' =>
      r = .ok ((kept saved id).map (restored config id)) ∧ b.Stores b.sessions 0 b' := by
  refine Gives.bind (gives_loadSession keeps live fun b' after => ?_)
  rw [holds id]
  cases kept saved id with
  | none => exact gives_pure ⟨rfl, after⟩
  | some values =>
    rw [Option.map_some]
    dsimp only
    rw [Values.decode?_encode]
    exact gives_pure ⟨rfl, after⟩

/-- A session that is created is fresh, and nothing is stored. -/
theorem gives_create (keeps : b.KeepsSessions) :
    b.Gives (create config) fun s b' =>
      s = fresh config (b.sessionId b.sessionIds) ∧ b.Stores b.sessions 1 b' :=
  Gives.bind (gives_newSessionId keeps fun _ after => gives_pure ⟨rfl, after⟩)

/-- The session for a request that asks for an identifier, or for none. -/
def loaded (config : Config) (saved : List Session) (new : Uuid) (id : Option Uuid) : Session :=
  (id.bind fun id => (kept saved id).map (restored config id)).getD (fresh config new)

/-- A request gets the session that is kept under its identifier, or a new one. -/
theorem gives_load (keeps : b.KeepsSessions) (live : b.sessions.Live b.uptime)
    (holds : Holds config b.sessions saved) (headers : List String) :
    b.Gives (load config headers) fun r b' =>
      r = .ok (loaded config saved (b.sessionId b.sessionIds) (requestedId? config headers)) ∧
        ∃ n, b.Stores b.sessions n b' := by
  unfold load
  cases requestedId? config headers with
  | none =>
    refine Gives.map ((gives_create keeps).mono fun s b' => ?_)
    rintro ⟨rfl, after⟩
    exact ⟨rfl, 1, after⟩
  | some id =>
    refine Gives.bind ((gives_get keeps live holds id).mono fun r b' => ?_)
    rintro ⟨rfl, after⟩
    cases found : kept saved id with
    | none =>
      refine Gives.map ((gives_create after.keeps).mono fun s b₂ => ?_)
      rintro ⟨rfl, later⟩
      rw [after.sessions] at later
      refine ⟨?_, _, after.trans later⟩
      simp [loaded, found, after.sessionId, after.sessionIds]
    | some values =>
      refine gives_pure ⟨?_, 0, after⟩
      simp [loaded, found]

/-- Saving a session writes the values under its key, or removes them once it has ended. -/
theorem gives_write (keeps : b.KeepsSessions) (live : b.sessions.Live b.uptime)
    (holds : Holds config b.sessions saved)
    (inTime : 0 < s.maxAge → b.uptime + s.maxAge.toNat * 1000000000 ≤ Store.latest) :
    b.Gives (write config s) fun r b' => r = .ok () ∧
      ∃ store, Holds config store (s :: saved) ∧ b.Stores store 0 b' := by
  have ends : ∀ n, (lifetime? s).map (· * 1000000000) = some n → b.uptime + n ≤ Store.latest := by
    intro n hn
    unfold lifetime? at hn
    split at hn
    · next positive =>
      cases hn
      exact inTime positive
    · cases hn
  unfold write
  cases ended : s.isEnded with
  | true => exact gives_deleteSession keeps fun _ after => ⟨rfl, _, holds.erase ended, after⟩
  | false =>
    exact gives_storeSession keeps (Store.store?_of_live live ends _ _) fun _ after =>
      ⟨rfl, _, holds.put ended _, after⟩

/-- A session that is saved in time is held by the store as saved last. -/
theorem gives_save (keeps : b.KeepsSessions) (live : b.sessions.Live b.uptime)
    (holds : Holds config b.sessions saved)
    (inTime : 0 < s.maxAge → b.uptime + s.maxAge.toNat * 1000000000 ≤ Store.latest) :
    b.Gives (save config s) fun r b' => r = cookie config s ∧
      ∃ store, Holds config store (s :: saved) ∧ b.Stores store 0 b' := by
  refine Gives.bind ((gives_write keeps live holds inTime).mono fun r b' => ?_)
  rintro ⟨rfl, written⟩
  exact gives_pure ⟨rfl, written⟩

/-! ## Operations -/

/-- What is done with sessions. Those in hand are known by their place. -/
inductive Operation where
  | create
  | authenticate (place : Nat) (userId : Uuid) (issuer accessToken : String)
  | invalidate (place : Nat)
  | save (place : Nat)
  | get (id : Uuid)
  | load (headers : List String)
  /-- Time passes, and the numbers from which identifiers are made go on elsewhere. -/
  | wait (nanoseconds seed : Nat)

/-- Someone who holds sessions. -/
structure Holder where
  backend : Backend
  /-- The sessions in hand, in the order in which they came. -/
  held : List Session := []
  /-- The sessions that were saved, as they were then, the last one first. -/
  saved : List Session := []

namespace Holder

/-- Runs a program and goes on with its result. -/
def ask {α : Type} (h : Holder) (p : Service α) (next : Holder → α → Holder) :
    Except Halt Holder :=
  match h.backend.run p with
  | (.ok a, b) => .ok (next { h with backend := b } a)
  | (.error halt, _) => .error halt

/-- Takes the sessions that came out of a program in hand. -/
def take (h : Holder) (sessions : List Session) : Holder := { h with held := h.held ++ sessions }

/-- The session that an operation saves. -/
def saves? (h : Holder) : Operation → Option Session
  | .save place => h.held[place]?
  | _ => none

/-- Does one operation. A session counts as saved when there is a cookie for it. -/
def step (config : Config) (h : Holder) : Operation → Except Halt Holder
  | .create => h.ask (create config) fun h s => h.take [s]
  | .authenticate place userId issuer accessToken =>
    .ok { h with held := h.held.modify place (·.authenticate userId issuer accessToken) }
  | .invalidate place => .ok { h with held := h.held.modify place finish }
  | .save place =>
    match h.held[place]? with
    | none => .ok h
    | some s =>
      h.ask (save config s) fun h cookie =>
        if cookie.toBool then { h with saved := s :: h.saved } else h
  | .get id => h.ask (get config id) fun h found => h.take found.toOption.join.toList
  | .load headers => h.ask (load config headers) fun h found => h.take found.toOption.toList
  | .wait nanoseconds seed =>
    let b := h.backend
    .ok { h with backend := { b with uptime := b.uptime + nanoseconds, seed := seed } }

/-- Does operations one after the other. -/
def perform (config : Config) (h : Holder) (ops : List Operation) : Except Halt Holder :=
  ops.foldlM (step config) h

/-- No entry of the store has reached its end. -/
def Live (h : Holder) : Prop := h.backend.sessions.Live h.backend.uptime

instance (h : Holder) : Decidable h.Live :=
  inferInstanceAs (Decidable (∀ e ∈ h.backend.sessions.entries, _ = true))

/-- No entry has reached its end, and the end of an entry that is to be stored exists. -/
structure InTime (h : Holder) (op : Operation) : Prop where
  live : h.Live
  ends : ∀ s ∈ h.saves? op, 0 < s.maxAge →
    h.backend.uptime + s.maxAge.toNat * 1000000000 ≤ Store.latest

instance (h : Holder) (op : Operation) : Decidable (h.InTime op) :=
  decidable_of_iff (h.Live ∧ ∀ s ∈ h.saves? op, 0 < s.maxAge →
      h.backend.uptime + s.maxAge.toNat * 1000000000 ≤ Store.latest)
    ⟨fun t => ⟨t.1, t.2⟩, fun t => ⟨t.live, t.ends⟩⟩

/-- All operations come in time, and no entry has reached its end after the last one. -/
def Timely (config : Config) : Holder → List Operation → Prop
  | h, [] => h.Live
  | h, op :: ops => h.InTime op ∧ ∀ h', h.step config op = .ok h' → Timely config h' ops

instance decidableTimely (config : Config) : (h : Holder) → (ops : List Operation) →
    Decidable (Timely config h ops)
  | h, [] => inferInstanceAs (Decidable h.Live)
  | h, op :: ops =>
    match done : h.step config op with
    | .ok h' =>
      have := decidableTimely config h' ops
      decidable_of_iff (h.InTime op ∧ Timely config h' ops) (by simp [Timely, done])
    | .error _ => decidable_of_iff (h.InTime op) (by simp [Timely, done])

/-- The session store does not fail, and holds what was saved. -/
structure Agrees (config : Config) (h : Holder) : Prop where
  keeps : h.backend.KeepsSessions
  holds : Holds config h.backend.sessions h.saved

variable {h : Holder} {op : Operation}

/-- What a program gives goes to its holder. -/
theorem ask_of_run {α : Type} {p : Service α} {a : α} {b' : Backend}
    (run : h.backend.run p = (.ok a, b')) (next : Holder → α → Holder) :
    h.ask p next = .ok (next { h with backend := b' } a) := by
  unfold ask
  rw [run]

/-- A program that only looks at the store changes nothing that is kept. -/
theorem agrees_of_look {α : Type} {p : Service α} {post : α → Backend → Prop}
    (agrees : h.Agrees config) (g : h.backend.Gives p post)
    (looks : ∀ a b', post a b' → ∃ n, h.backend.Stores h.backend.sessions n b')
    (sessions : α → List Session) :
    ∃ h', h.ask p (fun h a => h.take (sessions a)) = .ok h' ∧ h'.Agrees config ∧
      h'.saved = h.saved ∧ h'.backend.sessions = h.backend.sessions := by
  obtain ⟨a, b', run, hp⟩ := g
  obtain ⟨n, after⟩ := looks a b' hp
  refine ⟨_, ask_of_run run _, ⟨after.keeps, ?_⟩, rfl, after.sessions⟩
  show Holds config b'.sessions h.saved
  rw [after.sessions]
  exact agrees.holds

/-- What one operation does: a session that it saves is saved with a cookie, and if it saves none,
the store stays as it is. -/
theorem agrees_step (readable : config.Readable) (agrees : h.Agrees config)
    (inTime : h.InTime op) : ∃ h', h.step config op = .ok h' ∧ h'.Agrees config ∧
      h'.saved = (h.saves? op).toList ++ h.saved ∧
      (h.saves? op = none → h'.backend.sessions = h.backend.sessions) := by
  obtain ⟨live, ends⟩ := inTime
  cases op with
  | create =>
    obtain ⟨h', done, agrees', saved, sessions⟩ :=
      agrees_of_look agrees (gives_create agrees.keeps) (fun _ _ hp => ⟨1, hp.2⟩) fun s => [s]
    exact ⟨h', done, agrees', saved, fun _ => sessions⟩
  | authenticate place userId issuer accessToken =>
    exact ⟨_, rfl, ⟨agrees.keeps, agrees.holds⟩, rfl, fun _ => rfl⟩
  | invalidate place => exact ⟨_, rfl, ⟨agrees.keeps, agrees.holds⟩, rfl, fun _ => rfl⟩
  | save place =>
    cases held : h.held[place]? with
    | none =>
      have done : h.step config (.save place) = .ok h := by simp only [step, held]
      have nothing : h.saves? (.save place) = none := held
      rw [nothing]
      exact ⟨h, done, agrees, rfl, fun _ => rfl⟩
    | some s =>
      have saves : h.saves? (.save place) = some s := held
      obtain ⟨r, b', run, rfl, store, holds, after⟩ :=
        gives_save agrees.keeps live agrees.holds (ends s saves)
      rw [cookie_of_headerSafe readable.headerSafe] at run
      have done : h.step config (.save place)
          = .ok { h with backend := b', saved := s :: h.saved } := by
        simp only [step, held, ask_of_run run, Except.toBool, if_true]
      rw [saves]
      refine ⟨_, done, ⟨after.keeps, ?_⟩, rfl, fun none => nomatch none⟩
      show Holds config b'.sessions (s :: h.saved)
      rw [after.sessions]
      exact holds
  | get id =>
    obtain ⟨h', done, agrees', saved, sessions⟩ :=
      agrees_of_look agrees (gives_get agrees.keeps live agrees.holds id)
        (fun _ _ hp => ⟨0, hp.2⟩) fun found => found.toOption.join.toList
    exact ⟨h', done, agrees', saved, fun _ => sessions⟩
  | load headers =>
    obtain ⟨h', done, agrees', saved, sessions⟩ :=
      agrees_of_look agrees (gives_load agrees.keeps live agrees.holds headers)
        (fun _ _ hp => hp.2) fun found => found.toOption.toList
    exact ⟨h', done, agrees', saved, fun _ => sessions⟩
  | wait nanoseconds seed =>
    obtain ⟨keeps, holds⟩ := agrees
    exact ⟨_, rfl, ⟨⟨keeps.load, keeps.store, keeps.delete⟩, holds⟩, rfl, fun _ => rfl⟩

/-- The store agrees with what was saved after any operations that come in time. -/
theorem agrees_perform (readable : config.Readable) {ops : List Operation}
    (agrees : h.Agrees config) (timely : Timely config h ops) :
    ∃ h', h.perform config ops = .ok h' ∧ h'.Agrees config ∧ h'.Live := by
  induction ops generalizing h with
  | nil => exact ⟨h, rfl, agrees, timely⟩
  | cons op ops ih =>
    obtain ⟨inTime, rest⟩ := timely
    obtain ⟨h₁, done, agrees₁, -⟩ := agrees_step readable agrees inTime
    obtain ⟨h₂, performed, last⟩ := ih agrees₁ (rest h₁ done)
    refine ⟨h₂, ?_, last⟩
    unfold perform
    rw [List.foldlM_cons, done]
    exact performed

end Holder

/-! ## Refinement -/

end Session
end FederatedLogin
