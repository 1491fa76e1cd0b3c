import FederatedLogin.Proofs.Session.Remote
import Mathlib.Data.List.Forall2

/-!
# Sessions on a server and in memory

A client that creates, loads, changes and saves sessions cannot tell whether they are kept in memory
or on a server. `Alike` relates the two: what is found under every key is the same, and the next
identifier is. Each call on sessions is answered in the same way by both, and keeps them alike, as
long as no entry of the memory has reached its end and the end of a value that is to be stored
exists (`answer_alike`). So does each program that makes such calls only (`run_alike`), each
operation of a client (`act_alike`) and any number of them (`perform_alike`). What the client makes
of the server does not depend on time: each session that it saves takes one command, with exactly
the lifetime of the session (`recorded_perform`). All this is `stores_interchangeable`.
-/

namespace FederatedLogin

open Session

/-! ## Alike surroundings -/

/-- The call is one on sessions, and values that are to be stored end later than now, if ever, and
not too late. -/
def Call.timely (now : Nat) : Call → Bool
  | storeSession _ _ lifetime =>
    lifetime.all fun n => 0 < n && now + n * 1000000000 ≤ Session.Store.latest
  | deleteSession _ => true
  | c => c.looks

/-- Storing a value is in time if its end lies ahead and exists. -/
theorem Call.timely_storeSession_iff {now : Nat} {key value : String} {lifetime : Option Nat} :
    (storeSession key value lifetime).timely now = true ↔
      ∀ n ∈ lifetime, 0 < n ∧ now + n * 1000000000 ≤ Session.Store.latest := by
  cases lifetime with
  | none => exact ⟨fun _ => nofun, fun _ => rfl⟩
  | some n => simp [timely]

/-- Memory and a server hold the same values, and make the same identifiers. -/
structure Alike (b : Backend) (r : Remote) : Prop where
  keeps : b.KeepsSessions
  same : ∀ key, r.server.value? key =
    (b.sessions.get? key).map fun e => Text.toBytes e.value.toList
  seed : r.backend.seed = b.seed
  sessionIds : r.backend.sessionIds = b.sessionIds

variable {b : Backend} {r : Remote} {c : Call}

/-- Both answer the call in the same way, at the same time, and are alike afterwards. -/
def AnswerAlike (b : Backend) (r : Remote) (c : Call) : Prop :=
  ∃ a b' r', b.answer c = .ok (a, b') ∧ r.answer c = .ok (a, r') ∧ Alike b' r' ∧
    b'.sessions.Live b.uptime ∧ b'.uptime = b.uptime

/-- Memory and a server make the same identifier. -/
theorem newSessionId_alike (alike : Alike b r) (live : b.sessions.Live b.uptime) :
    AnswerAlike b r .newSessionId := by
  obtain ⟨⟨loads, stores, deletes⟩, same, seed, sessionIds⟩ := alike
  have id : r.backend.sessionId r.backend.sessionIds = b.sessionId b.sessionIds := by
    unfold Backend.sessionId
    rw [seed, sessionIds]
  have made : r.answer .newSessionId = .ok (b.sessionId b.sessionIds, { r with
      backend := { r.backend.record .newSessionId with
        sessionIds := r.backend.sessionIds + 1 } }) := by
    rw [← id]
    rfl
  exact ⟨_, _, _, rfl, made, ⟨⟨loads, stores, deletes⟩, same, seed,
    congrArg (· + 1) sessionIds⟩, live, rfl⟩

/-- Memory and a server load the same value. -/
theorem loadSession_alike (alike : Alike b r) (live : b.sessions.Live b.uptime) (key : String) :
    AnswerAlike b r (.loadSession key) := by
  obtain ⟨⟨loads, stores, deletes⟩, same, seed, sessionIds⟩ := alike
  have held : r.server.value? key
      = ((b.sessions.get? key).map Entry.value).map fun v => Text.toBytes v.toList := by
    rw [same key, Option.map_map]
    rfl
  have found : b.answer (.loadSession key) = .ok (.ok ((b.sessions.get? key).map Entry.value),
      b.record (.loadSession key)) :=
    (Backend.answer_of_point? b rfl).trans (congrArg Except.ok
      (Backend.loadSession_of_live (b := b.record (.loadSession key)) loads live key))
  refine ⟨_, _, _, found, congrArg Except.ok (Remote.converse_load held),
    ⟨⟨loads, stores, deletes⟩, fun k => ?_, seed, sessionIds⟩, live, rfl⟩
  exact (Redis.Server.value?_perform r.server (.get key) k).trans (same k)

/-- Memory and a server store a value alike, if its end lies ahead and exists. -/
theorem storeSession_alike (alike : Alike b r) (live : b.sessions.Live b.uptime)
    (key value : String) {lifetime : Option Nat}
    (inTime : ∀ n ∈ lifetime, 0 < n ∧ b.uptime + n * 1000000000 ≤ Store.latest) :
    AnswerAlike b r (.storeSession key value lifetime) := by
  obtain ⟨⟨loads, stores, deletes⟩, same, seed, sessionIds⟩ := alike
  have positive (n) (hn : n ∈ lifetime) : 0 < n := (inTime n hn).1
  -- The call has seconds and the memory nanoseconds.
  have ends (n) (hn : lifetime.map (· * 1000000000) = some n) : b.uptime + n ≤ Store.latest := by
    obtain ⟨seconds, given, rfl⟩ := Option.map_eq_some_iff.1 hn
    exact (inTime seconds given).2
  have lasts (n) (hn : n ∈ lifetime.map (· * 1000000000)) : 0 < n := by
    obtain ⟨seconds, given, rfl⟩ := Option.map_eq_some_iff.1 hn
    exact Nat.mul_pos (positive seconds given) (by decide)
  have stored := Store.store?_of_live live ends key value
  have written : b.answer (.storeSession key value lifetime) = .ok (.ok (), _) :=
    (Backend.answer_of_point? b rfl).trans
      (Backend.storeSession_of_store? (b := b.record (.storeSession key value lifetime)) stores
        stored)
  refine ⟨_, _, _, written, congrArg Except.ok (Remote.converse_store positive),
    ⟨⟨loads, stores, deletes⟩, fun k => ?_, seed, sessionIds⟩, live.store lasts stored, rfl⟩
  refine (Redis.Server.value?_perform r.server (.set key value lifetime) k).trans ?_
  dsimp only
  rw [Store.get?_cons, Store.get?_erase, same k]
  split <;> rfl

/-- Memory and a server delete a value alike. -/
theorem deleteSession_alike (alike : Alike b r) (live : b.sessions.Live b.uptime) (key : String) :
    AnswerAlike b r (.deleteSession key) := by
  obtain ⟨⟨loads, stores, deletes⟩, same, seed, sessionIds⟩ := alike
  have deleted : b.answer (.deleteSession key) = .ok (.ok (), _) :=
    (Backend.answer_of_point? b rfl).trans (congrArg Except.ok
      (Backend.deleteSession_of_works (b := b.record (.deleteSession key)) deletes key))
  refine ⟨_, _, _, deleted, congrArg Except.ok (r.converse_delete key),
    ⟨⟨loads, stores, deletes⟩, fun k => ?_, seed, sessionIds⟩, live.erase key, rfl⟩
  refine (Redis.Server.value?_perform r.server (.del key) k).trans ?_
  dsimp only
  rw [Store.get?_erase, same k]
  split <;> rfl

/-- Memory and a server answer every call on sessions alike that is in time. -/
theorem answer_alike (alike : Alike b r) (live : b.sessions.Live b.uptime)
    (timely : c.timely b.uptime = true) : AnswerAlike b r c := by
  cases c with
  | newSessionId => exact newSessionId_alike alike live
  | log level text =>
    obtain ⟨⟨loads, stores, deletes⟩, same, seed, sessionIds⟩ := alike
    exact ⟨(), _, _, rfl, rfl, ⟨⟨loads, stores, deletes⟩, same, seed, sessionIds⟩, live, rfl⟩
  | loadSession key => exact loadSession_alike alike live key
  | storeSession key value lifetime =>
    exact storeSession_alike alike live key value (Call.timely_storeSession_iff.1 timely)
  | deleteSession key => exact deleteSession_alike alike live key
  | _ => cases timely

/-- Both run a program in the same way. -/
theorem run_alike {α : Type} {p : Service α} (alike : Alike b r)
    (live : b.sessions.Live b.uptime) (timely : p.Asks (Call.timely b.uptime)) :
    ∃ a b' r', b.run p = (.ok a, b') ∧ r.run p = (.ok a, r') ∧ Alike b' r' := by
  induction p generalizing b r with
  | done a => exact ⟨a, b, r, rfl, rfl, alike⟩
  | ask c next ih =>
    obtain ⟨answer, b₁, r₁, answered, answered', alike₁, live₁, uptime⟩ :=
      answer_alike alike live timely.1
    rw [← uptime] at live₁ timely
    obtain ⟨a, b₂, r₂, ran, ran', alike₂⟩ := ih answer alike₁ live₁ (timely.2 answer)
    exact ⟨a, b₂, r₂, (Backend.run_ask answered next).trans ran,
      (Remote.run_ask answered' next).trans ran', alike₂⟩

/-! ## Clients -/

namespace Session

/-- What a client got from an operation. -/
inductive Outcome where
  | created (s : Session)
  | found (result : Except Error (Option Session))
  | loaded (result : Except Error Session)
  | saved (cookie : Except Error String)
  deriving DecidableEq

/-- What a client has of sessions. -/
structure Client where
  /-- The sessions in hand, in the order in which they came. -/
  held : List Session := []
  /-- The sessions that were to be saved, as they were then. -/
  saved : List Session := []
  outcomes : List Outcome := []
  deriving DecidableEq

namespace Client

/-- Takes sessions in hand, and notes where they are from. -/
def take (c : Client) (sessions : List Session) (outcome : Outcome) : Client :=
  { c with held := c.held ++ sessions, outcomes := c.outcomes ++ [outcome] }

/-- Notes that a session was to be saved, and which cookie came. -/
def put (c : Client) (s : Session) (cookie : Except Error String) : Client :=
  { c with saved := c.saved ++ [s], outcomes := c.outcomes ++ [.saved cookie] }

/-- Does one operation. -/
def act (config : Config) (c : Client) : Operation → Service Client
  | .create => (fun s => c.take [s] (.created s)) <$> create config
  | .authenticate place userId issuer accessToken =>
    pure { c with held := c.held.modify place (·.authenticate userId issuer accessToken) }
  | .invalidate place => pure { c with held := c.held.modify place finish }
  | .save place =>
    match c.held[place]? with
    | none => pure c
    | some s => c.put s <$> save config s
  | .get id => (fun found => c.take found.toOption.join.toList (.found found)) <$> get config id
  | .load headers =>
    (fun found => c.take found.toOption.toList (.loaded found)) <$> load config headers
  | .wait _ _ => pure c

variable {config : Config} {c : Client} {place : Nat} {s : Session}

/-- No session is saved from a place where there is none. -/
theorem act_save_of_none (absent : c.held[place]? = none) :
    c.act config (.save place) = pure c := by
  simp only [act, absent]

/-- The session in its place is saved, and the cookie is noted. -/
theorem act_save_of_some (held : c.held[place]? = some s) :
    c.act config (.save place) = c.put s <$> save config s := by
  simp only [act, held]

end Client

/-- What becomes of surroundings during an operation without the client. -/
def Operation.pass : Operation → Backend → Backend
  | .wait nanoseconds seed, b => { b with uptime := b.uptime + nanoseconds, seed := seed }
  | _, b => b

/-- Surroundings in which programs run. -/
structure Host (σ : Type) where
  run : {α : Type} → σ → Service α → Except Backend.Halt α × σ
  pass : Operation → σ → σ

/-- Does operations one after the other. -/
def Host.perform {σ : Type} (host : Host σ) (config : Config) (s : σ) (c : Client) :
    List Operation → Except Backend.Halt (Client × σ)
  | [] => .ok (c, s)
  | op :: ops =>
    match host.run (host.pass op s) (c.act config op) with
    | (.ok c, s) => host.perform config s c ops
    | (.error halt, _) => .error halt

/-- Operations are done one after the other. -/
theorem Host.perform_cons {σ : Type} {host : Host σ} {config : Config} {s s' : σ} {c c' : Client}
    {op : Operation} (ran : host.run (host.pass op s) (c.act config op) = (.ok c', s'))
    (ops : List Operation) :
    host.perform config s c (op :: ops) = host.perform config s' c' ops := by
  rw [perform, ran]

/-- Sessions are kept in memory. -/
def inMemory : Host Backend where
  run := Backend.run
  pass := Operation.pass

/-- Sessions are kept on a server. -/
def onServer : Host Remote where
  run := Remote.run
  pass op r := { r with backend := op.pass r.backend }

/-! ## Both at once -/

variable {config : Config} {s : Session} {c : Client} {op : Operation} {ops : List Operation}

/-- A value is stored for the lifetime of its session, if that is positive. -/
theorem mem_lifetime?_iff {n : Nat} : n ∈ lifetime? s ↔ 0 < s.maxAge ∧ s.maxAge.toNat = n := by
  unfold lifetime?
  split <;> simp [*]

/-- Saving a session makes calls in time, if the end of the session exists. -/
theorem asks_save {now : Nat}
    (ends : 0 < s.maxAge → now + s.maxAge.toNat * 1000000000 ≤ Store.latest) :
    (save config s).Asks (Call.timely now) := by
  refine Program.Asks.bind ?_ fun written => ?_
  · by_cases ended : s.maxAge < 0
    · rw [write_of_ended ended]
      exact Program.asks_question rfl
    · rw [write_of_live ended]
      refine Program.asks_question (Call.timely_storeSession_iff.2 fun n hn => ?_)
      obtain ⟨positive, rfl⟩ := mem_lifetime?_iff.1 hn
      exact ⟨by omega, ends positive⟩
  · cases written <;> exact Program.asks_done _

/-- An operation in time makes calls in time. -/
theorem asks_act (inTime : Holder.InTime ⟨b, c.held, []⟩ op) :
    (c.act config op).Asks (Call.timely b.uptime) := by
  cases op with
  | create => exact (asks_create rfl).map _
  | authenticate place userId issuer accessToken => exact Program.asks_done _
  | invalidate place => exact Program.asks_done _
  | save place =>
    cases held : c.held[place]? with
    | none =>
      rw [Client.act_save_of_none held]
      exact Program.asks_done _
    | some s =>
      rw [Client.act_save_of_some held]
      exact (asks_save (inTime.ends s held)).map _
  | get id => exact (asks_get rfl fun _ => rfl).map _
  | load headers => exact (asks_load rfl (fun _ _ => rfl) fun _ => rfl).map _
  | wait nanoseconds seed => exact Program.asks_done _

/-- An operation goes the same way in memory and on the server. -/
theorem act_alike (alike : Alike b r) (inTime : Holder.InTime ⟨b, c.held, []⟩ op) :
    ∃ c' b' r', inMemory.run (inMemory.pass op b) (c.act config op) = (.ok c', b') ∧
      onServer.run (onServer.pass op r) (c.act config op) = (.ok c', r') ∧ Alike b' r' := by
  cases op with
  -- Waiting moves the clock, after which entries may have ended, but it asks nothing.
  | wait nanoseconds seed =>
    obtain ⟨⟨loads, stores, deletes⟩, same, -, sessionIds⟩ := alike
    exact ⟨c, _, _, rfl, rfl, ⟨⟨loads, stores, deletes⟩, same, rfl, sessionIds⟩⟩
  | _ => exact run_alike alike inTime.live (asks_act inTime)

/-- All operations come in time. -/
def Timely (config : Config) (b : Backend) (c : Client) : List Operation → Prop
  | [] => True
  | op :: ops => Holder.InTime ⟨b, c.held, []⟩ op ∧
      ∀ c' b', inMemory.run (inMemory.pass op b) (c.act config op) = (.ok c', b') →
        Timely config b' c' ops

instance decidableTimely (config : Config) (b : Backend) (c : Client) : (ops : List Operation) →
    Decidable (Timely config b c ops)
  | [] => .isTrue trivial
  | op :: ops =>
    match done : inMemory.run (inMemory.pass op b) (c.act config op) with
    | (.ok c', b') =>
      have := decidableTimely config b' c' ops
      decidable_of_iff (Holder.InTime ⟨b, c.held, []⟩ op ∧ Timely config b' c' ops)
        (by simp [Timely, done])
    | (.error _, _) =>
      decidable_of_iff (Holder.InTime ⟨b, c.held, []⟩ op) (by simp [Timely, done])

/-- Memory and a server stay alike through operations in time, and the client gets the same from
both. -/
theorem perform_alike (alike : Alike b r) (timely : Timely config b c ops) :
    ∃ c' b' r', inMemory.perform config b c ops = .ok (c', b') ∧
      onServer.perform config r c ops = .ok (c', r') ∧ Alike b' r' := by
  induction ops generalizing b r c with
  | nil => exact ⟨c, b, r, rfl, rfl, alike⟩
  | cons op ops ih =>
    obtain ⟨inTime, rest⟩ := timely
    obtain ⟨c₁, b₁, r₁, ran, ran', alike₁⟩ := act_alike alike inTime
    obtain ⟨c₂, b₂, r₂, performed, performed', alike₂⟩ := ih alike₁ (rest c₁ b₁ ran)
    exact ⟨c₂, b₂, r₂, (Host.perform_cons ran ops).trans performed,
      (Host.perform_cons ran' ops).trans performed', alike₂⟩

/-! ## The commands to the server -/

/-- The server holds what the commands say, and the commands that change it are those that save the
sessions which the client has saved. -/
structure Recorded (config : Config) (c : Client) (r : Remote) : Prop where
  mapped : r.Mapped
  changes : List.Forall₂ (Saves config) c.saved r.changes

/-- Looks at sessions change neither the server nor what was saved. -/
theorem recorded_of_looks {α : Type} {p : Service α} {f : α → Client}
    (recorded : Recorded config c r) (looks : p.Asks Call.looks)
    (saved : ∀ a, (f a).saved = c.saved) :
    ∃ c' r', r.run (f <$> p) = (.ok c', r') ∧ Recorded config c' r' := by
  obtain ⟨a, r', ran, changes⟩ := r.run_of_looks looks
  have mapped := Remote.mapped_run recorded.mapped p
  rw [ran] at mapped
  refine ⟨f a, r', Remote.run_map f ran, mapped, ?_⟩
  rw [saved, changes]
  exact recorded.changes

/-- An operation on the server comes to its end, and if it saves a session it sends the command for
it. -/
theorem recorded_act (recorded : Recorded config c r) (op : Operation) :
    ∃ c' r', onServer.run (onServer.pass op r) (c.act config op) = (.ok c', r') ∧
      Recorded config c' r' := by
  cases op with
  | create => exact recorded_of_looks recorded (asks_create rfl) fun _ => rfl
  | authenticate place userId issuer accessToken =>
    exact ⟨_, _, rfl, recorded.mapped, recorded.changes⟩
  | invalidate place => exact ⟨_, _, rfl, recorded.mapped, recorded.changes⟩
  | save place =>
    cases held : c.held[place]? with
    | none =>
      rw [Client.act_save_of_none held]
      exact ⟨c, r, rfl, recorded⟩
    | some s =>
      rw [Client.act_save_of_some held]
      obtain ⟨command, saves, ran⟩ := run_save config s r
      refine ⟨_, _, Remote.run_map _ ran, Remote.mapped_command recorded.mapped command, ?_⟩
      rw [Remote.changes_command, List.filter_cons_of_pos saves.isChange]
      exact List.rel_append recorded.changes (.cons saves .nil)
  | get id => exact recorded_of_looks recorded (asks_get rfl fun _ => rfl) fun _ => rfl
  | load headers =>
    exact recorded_of_looks recorded (asks_load rfl (fun _ _ => rfl) fun _ => rfl) fun _ => rfl
  | wait nanoseconds seed => exact ⟨_, _, rfl, recorded.mapped, recorded.changes⟩

/-- Whatever operations are done, the commands that change the server are those that save sessions.
-/
theorem recorded_perform (recorded : Recorded config c r) (ops : List Operation) :
    ∃ c' r', onServer.perform config r c ops = .ok (c', r') ∧ Recorded config c' r' := by
  induction ops generalizing c r with
  | nil => exact ⟨c, r, rfl, recorded⟩
  | cons op ops ih =>
    obtain ⟨c₁, r₁, ran, recorded₁⟩ := recorded_act recorded op
    obtain ⟨c₂, r₂, performed, recorded₂⟩ := ih recorded₁
    exact ⟨c₂, r₂, (Host.perform_cons ran ops).trans performed, recorded₂⟩

/-! ## Interchange -/

/-- A client that begins with empty stores gets the same sessions, errors and cookies, whether
sessions are kept in memory or on a server, as long as no entry of the memory reaches its end and
all ends exist. In any case the server changes for each session that the client has saved by one
command: it deletes the session if that has ended, stores it for good if its lifetime is zero, and
stores it for its lifetime otherwise. All the while the server replies with the value of the last
`SET` of a key that no `DEL` of it follows. -/
theorem stores_interchangeable (config : Config) (keeps : b.KeepsSessions)
    (empty : b.sessions = {}) (ops : List Operation) :
    ∃ c r, onServer.perform config { backend := b } {} ops = .ok (c, r) ∧
      (Timely config b {} ops → ∃ b', inMemory.perform config b {} ops = .ok (c, b')) ∧
      List.Forall₂ (Saves config) c.saved (r.commands.filter Redis.Command.isChange) ∧
      ∀ key, (r.server.perform (.get key)).1 =
        .found ((Redis.lastSet key r.commands).map fun v => Text.toBytes v.toList) := by
  have alike : Alike b { backend := b } := by
    refine ⟨keeps, fun key => ?_, rfl, rfl⟩
    rw [empty]
    rfl
  have start : Recorded config {} { backend := b } := ⟨fun _ => rfl, .nil⟩
  -- The run on the server comes first, as it does not depend on time.
  obtain ⟨c, r, performed, recorded⟩ := recorded_perform start ops
  refine ⟨c, r, performed, fun timely => ?_, recorded.changes, fun key => ?_⟩
  · obtain ⟨c', b', r', remembered, performed', -⟩ := perform_alike alike timely
    rw [performed] at performed'
    cases performed'
    exact ⟨b', remembered⟩
  · rw [Redis.Server.perform_get, recorded.mapped key]

/-- A session of a day is saved after a login, found by a request, and deleted after a logout. The
server is told to keep it for a day. -/
theorem stores_interchangeable_logout :
    let b : Backend := { (default : Backend) with seed := 2748 }
    let id := b.sessionId 0
    let values : Values := ⟨some (Uuid.ofNat 7), some "google", some "token"⟩
    let ops : List Operation :=
      [.create, .authenticate 0 (Uuid.ofNat 7) "google" "token", .save 0, .wait 3600000000000 99,
        .load ["idlink_session=" ++ id.render], .invalidate 0, .save 0, .get id]
    b.KeepsSessions ∧ b.sessions = {} ∧ Timely {} b {} ops ∧
      ∃ c b' r, inMemory.perform {} b {} ops = .ok (c, b') ∧
        onServer.perform {} { backend := b } {} ops = .ok (c, r) ∧
        c.outcomes.drop 2 = [.loaded (.ok ⟨id, values, false, 86400⟩),
          .saved (.ok "idlink_session=; Path=/; Max-Age=0; SameSite=Lax; HttpOnly"),
          .found (.ok none)] ∧
        r.commands.filter Redis.Command.isChange =
          [.set (key {} id) values.encode (some 86400), .del (key {} id)] := by
  intro b id values ops
  have keeps : b.KeepsSessions := ⟨rfl, rfl, rfl⟩
  have timely : Timely {} b {} ops := by decide +kernel
  obtain ⟨c, r, performed, remembered, -, -⟩ := stores_interchangeable {} keeps rfl ops
  obtain ⟨b', kept⟩ := remembered timely
  have seen : (onServer.perform {} { backend := b } {} ops).toOption.map
      (fun p => (p.1.outcomes.drop 2, p.2.commands.filter Redis.Command.isChange))
      = some ([.loaded (.ok ⟨id, values, false, 86400⟩),
          .saved (.ok "idlink_session=; Path=/; Max-Age=0; SameSite=Lax; HttpOnly"),
          .found (.ok none)],
        [.set (key {} id) values.encode (some 86400), .del (key {} id)]) := by decide +kernel
  rw [performed] at seen
  obtain ⟨outcomes, commands⟩ := Prod.mk.inj (Option.some.inj seen)
  exact ⟨keeps, rfl, timely, c, b', r, kept, performed, outcomes, commands⟩

end Session
end FederatedLogin
