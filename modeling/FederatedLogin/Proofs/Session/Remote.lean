import FederatedLogin.Backend.Remote
import FederatedLogin.Proofs.Session.Looking
import FederatedLogin.Proofs.Session.Saving

/-!
# Sessions on a server

What sessions make of a server that keeps everything until it is deleted. The server is a map: it
replies to a `GET` with the value of the last `SET` of the key that no `DEL` of it follows
(`Redis.lastSet`), whichever program has sent the commands (`mapped_run`). Programs that create,
load and look up sessions change nothing on it (`run_of_looks`). Saving a session sends one command
that does, and which one depends on the lifetime of the session alone (`run_save`): a session that
has ended is deleted, one with lifetime zero is stored for good, and any other for exactly its
lifetime.
-/

namespace FederatedLogin

open Session

/-! ## The server as a map -/

namespace Session.Redis

/-- The value of the last `SET` of a key that no `DEL` of it follows. -/
def lastSet (key : String) (commands : List Command) : Option String :=
  commands.foldl
    (fun value c =>
      match c with
      | .get _ => value
      | .set k v _ => if key = k then some v else value
      | .del k => if key = k then none else value)
    none

/-- The last command settles which value was set last, if it sets or deletes the key. -/
theorem lastSet_concat (key : String) (commands : List Command) (c : Command) :
    lastSet key (commands ++ [c]) =
      match c with
      | .get _ => lastSet key commands
      | .set k v _ => if key = k then some v else lastSet key commands
      | .del k => if key = k then none else lastSet key commands := by
  unfold lastSet
  rw [List.foldl_append]
  rfl

/-- The reply to a `GET` that has found a value, or none. -/
def Reply.found : Option (List UInt8) → Reply
  | some value => .bytes value
  | none => .nothing

/-- The command changes the server. -/
def Command.isChange : Command → Bool
  | .get _ => false
  | _ => true

namespace Server

/-- The bytes under a key. -/
def value? (s : Server) (key : String) : Option (List UInt8) := s.entries.lookup key

theorem perform_get (s : Server) (key : String) :
    s.perform (.get key) = (.found (s.value? key), s) := by
  simp only [perform, value?]
  cases s.entries.lookup key <;> rfl

/-- What is under a key after a command. -/
theorem value?_perform (s : Server) (c : Command) (k : String) :
    (s.perform c).2.value? k =
      match c with
      | .get _ => s.value? k
      | .set key value _ => if k = key then some (Text.toBytes value.toList) else s.value? k
      | .del key => if k = key then none else s.value? k := by
  cases c with
  | get key => rw [perform_get]
  | set key value seconds =>
    refine (lookup_cons_eq_ite k key _ _).trans ?_
    dsimp only
    by_cases h : k = key
    · rw [if_pos h, if_pos h]
    · rw [if_neg h, if_neg h]
      exact (lookup_filter_ne k key s.entries).trans (if_neg h)
  | del key => exact lookup_filter_ne k key s.entries

end Server

end Session.Redis

namespace Remote

open Redis

variable {r : Remote} {key : String}

/-- The server holds what the commands so far have put there. -/
def Mapped (r : Remote) : Prop :=
  ∀ key, r.server.value? key = (lastSet key r.commands).map fun v => Text.toBytes v.toList

/-- The server holds what the commands have put there after each command. -/
theorem mapped_command (mapped : r.Mapped) (c : Command) : (r.command c).2.Mapped := by
  intro k
  show (r.server.perform c).2.value? k = (lastSet k (r.commands ++ [c])).map _
  rw [Server.value?_perform, lastSet_concat]
  cases c with
  | get key => exact mapped k
  | set key value seconds =>
    rw [mapped k]
    dsimp only
    split <;> rfl
  | del key =>
    rw [mapped k]
    dsimp only
    split <;> rfl

/-- The server holds what the commands have put there after each conversation. -/
theorem mapped_converse {α : Type} (mapped : r.Mapped) (p : Conversation α) :
    (r.converse p).2.Mapped := by
  induction p generalizing r with
  | done a => exact mapped
  | ask c next ih => exact ih _ (mapped_command mapped c)

/-- A call that is none of the session store is answered by the other surroundings. -/
theorem of_answer {c : Call} {a : c.Answer} {r' : Remote} (h : r.answer c = .ok (a, r')) :
    (∃ p : Conversation c.Answer, r.converse p = (a, r')) ∨
      ∃ b, r' = { r with backend := b } := by
  cases c with
  | loadSession key => exact .inl ⟨_, Except.ok.inj h⟩
  | storeSession key value lifetime => exact .inl ⟨_, Except.ok.inj h⟩
  | deleteSession key => exact .inl ⟨_, Except.ok.inj h⟩
  | _ =>
    simp only [answer] at h
    split at h
    · cases h
    · cases h
      exact .inr ⟨_, rfl⟩

/-- The server replies as the commands so far say, whichever program has sent them. -/
theorem mapped_run {α : Type} (mapped : r.Mapped) (p : Service α) : (r.run p).2.Mapped := by
  induction p generalizing r with
  | done a => exact mapped
  | ask c next ih =>
    unfold run
    split
    · exact mapped
    · next a r' answered =>
      refine ih a ?_
      rcases of_answer answered with ⟨p, conversed⟩ | ⟨b, rfl⟩
      · have after := mapped_converse mapped p
        rw [conversed] at after
        exact after
      · exact mapped

/-! ## What programs send -/

/-- A conversation that sends a `GET` goes on with what was found. -/
theorem converse_get {α : Type} (r : Remote) (key : String) (next : Reply → Conversation α) :
    r.converse (send (.get key) >>= next)
      = (r.command (.get key)).2.converse (next (.found (r.server.value? key))) := by
  show (r.command (.get key)).2.converse (next (r.server.perform (.get key)).1) = _
  rw [Server.perform_get]

/-- A look finds a text that was stored. -/
theorem converse_load {value : Option String}
    (held : r.server.value? key = value.map fun v => Text.toBytes v.toList) :
    r.converse (Redis.load key) = (.ok value, (r.command (.get key)).2) := by
  unfold Redis.load
  rw [converse_get, held]
  cases value with
  | none => rfl
  | some v =>
    simp only [Option.map_some, Reply.found, Text.ofBytes?_toBytes, String.ofList_toList]
    rfl

/-- Loading a value sends one `GET`. -/
theorem exists_converse_load (r : Remote) (key : String) :
    ∃ a, r.converse (Redis.load key) = (a, (r.command (.get key)).2) := by
  unfold Redis.load
  rw [converse_get]
  cases r.server.value? key with
  | none => exact ⟨_, rfl⟩
  | some bytes =>
    unfold Reply.found
    dsimp only
    split <;> exact ⟨_, rfl⟩

/-- A lifetime of whole seconds is sent as it is. -/
theorem converse_store {value : String} {seconds : Option Nat} (positive : ∀ n ∈ seconds, 0 < n) :
    r.converse (Redis.store key value (seconds.map (· * 1000000000)))
      = (.ok (), (r.command (.set key value seconds)).2) := by
  have whole : (seconds.map (· * 1000000000)).map (fun n => max 1 (n / 1000000000)) = seconds := by
    cases seconds with
    | none => rfl
    | some n =>
      have := positive n rfl
      simp only [Option.map_some, Option.some.injEq]
      omega
  unfold Redis.store
  rw [whole]
  rfl

/-- Deleting a value sends one `DEL`, and does not fail. -/
theorem converse_delete (r : Remote) (key : String) :
    r.converse (Redis.delete key) = (.ok (), (r.command (.del key)).2) := rfl

/-- A program that asks goes on with the answer. -/
theorem run_ask {α : Type} {c : Call} {a : c.Answer} {r' : Remote}
    (answered : r.answer c = .ok (a, r')) (next : c.Answer → Service α) :
    r.run (.ask c next) = r'.run (next a) := by
  rw [run, answered]

theorem run_call {c : Call} {a : c.Answer} {r' : Remote} (answered : r.answer c = .ok (a, r')) :
    r.run (call c) = (.ok a, r') :=
  run_ask answered .done

/-- A program runs in front of the one that goes on with its result. -/
theorem run_bind {α β : Type} {p : Service α} {f : α → Service β} {a : α} {r' : Remote}
    (ran : r.run p = (.ok a, r')) : r.run (p >>= f) = r'.run (f a) := by
  induction p generalizing r with
  | done a₁ =>
    cases ran
    rfl
  | ask c next ih =>
    rw [Program.ask_bind]
    cases answered : r.answer c with
    | error halt =>
      simp only [run, answered] at ran
      cases ran
    | ok after =>
      simp only [run, answered] at ran ⊢
      exact ih after.1 ran

theorem run_map {α β : Type} {p : Service α} (f : α → β) {a : α} {r' : Remote}
    (ran : r.run p = (.ok a, r')) : r.run (f <$> p) = (.ok (f a), r') :=
  run_bind ran

/-- The commands so far that have changed the server. -/
def changes (r : Remote) : List Command := r.commands.filter Command.isChange

/-- A command is noted among those that have changed the server just if it is one of them. -/
theorem changes_command (r : Remote) (c : Command) :
    (r.command c).2.changes = r.changes ++ [c].filter Command.isChange :=
  List.filter_append r.commands [c]

/-- A call that only looks sends no command that changes the server. -/
theorem answer_of_looks (r : Remote) {c : Call} (looks : c.looks = true) :
    ∃ a r', r.answer c = .ok (a, r') ∧ r'.changes = r.changes := by
  cases c with
  | newSessionId => exact ⟨_, _, rfl, rfl⟩
  | log level text => exact ⟨_, _, rfl, rfl⟩
  | loadSession key =>
    obtain ⟨a, conversed⟩ := exists_converse_load r key
    refine ⟨a, _, congrArg Except.ok conversed, ?_⟩
    rw [changes_command]
    exact List.append_nil _
  | _ => cases looks

/-- A program that only looks ends, and changes nothing on the server. -/
theorem run_of_looks {α : Type} (r : Remote) {p : Service α} (looks : p.Asks Call.looks) :
    ∃ a r', r.run p = (.ok a, r') ∧ r'.changes = r.changes := by
  induction p generalizing r with
  | done a => exact ⟨a, r, rfl, rfl⟩
  | ask c next ih =>
    obtain ⟨answer, r₁, answered, same⟩ := answer_of_looks r looks.1
    obtain ⟨a, r₂, ran, same'⟩ := ih answer r₁ (looks.2 answer)
    exact ⟨a, r₂, (run_ask answered next).trans ran, same'.trans same⟩

end Remote

/-! ## Programs on sessions -/

namespace Session

open Redis

variable {config : Config} {s : Session} {r : Remote}

/-- The command that saving a session sends. -/
inductive Saves (config : Config) (s : Session) : Command → Prop where
  | ended (negative : s.maxAge < 0) : Saves config s (.del (key config s.id))
  | kept (zero : s.maxAge = 0) : Saves config s (.set (key config s.id) s.values.encode none)
  | timed (n : Nat) (positive : 1 ≤ n) (exact : s.maxAge = n) :
    Saves config s (.set (key config s.id) s.values.encode (some n))

/-- Writing a session sends the one command that saves it. -/
theorem run_write (config : Config) (s : Session) (r : Remote) :
    ∃ c, Saves config s c ∧ r.run (write config s) = (.ok (.ok ()), (r.command c).2) := by
  have stored (seconds : Option Nat) (positive : ∀ n ∈ seconds, 0 < n) :
      r.run (call (.storeSession (key config s.id) s.values.encode seconds))
        = (.ok (.ok ()), (r.command (.set (key config s.id) s.values.encode seconds)).2) :=
    Remote.run_call (congrArg Except.ok (Remote.converse_store positive))
  rcases Int.lt_trichotomy s.maxAge 0 with negative | zero | positive
  · rw [write_of_ended negative]
    exact ⟨_, .ended negative, Remote.run_call (congrArg Except.ok (r.converse_delete _))⟩
  · have forever : lifetime? s = none := if_neg (by omega)
    rw [write_of_live (by omega), forever]
    exact ⟨_, .kept zero, stored none nofun⟩
  · have seconds : lifetime? s = some s.maxAge.toNat := if_pos positive
    rw [write_of_live (by omega), seconds]
    refine ⟨_, .timed s.maxAge.toNat (by omega) (by omega), stored _ ?_⟩
    rintro n ⟨⟩
    omega

/-- Saving a session sends one command that changes the server, and gives the cookie of the
session. -/
theorem run_save (config : Config) (s : Session) (r : Remote) :
    ∃ c, Saves config s c ∧ r.run (save config s) = (.ok (cookie config s), (r.command c).2) := by
  obtain ⟨c, saves, written⟩ := run_write config s r
  refine ⟨c, saves, ?_⟩
  unfold save
  rw [Remote.run_bind written]
  rfl

/-- The command that saves a session changes the server. -/
theorem Saves.isChange {c : Command} (saves : Saves config s c) : c.isChange = true := by
  cases saves <;> rfl

end Session
end FederatedLogin
