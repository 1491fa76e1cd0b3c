import FederatedLogin.Backend.Basic
import FederatedLogin.Session.Redis

/-!
# Surroundings with a key-value server

Surroundings that keep sessions on a key-value server. What has to do with sessions becomes commands
to the server, all of which are recorded; everything else is answered as before.
-/

namespace FederatedLogin

open Session

/-- Surroundings of the service that keep sessions on a server. -/
structure Remote where
  /-- What answers to all calls but those of the session store. -/
  backend : Backend
  server : Redis.Server := {}
  /-- The commands so far. -/
  commands : List Redis.Command := []

namespace Remote

/-- Has a command carried out. -/
def command (r : Remote) (c : Redis.Command) : Redis.Reply × Remote :=
  let (reply, server) := r.server.perform c
  (reply, { r with server := server, commands := r.commands ++ [c] })

/-- Has all commands of a program carried out. -/
def converse {α : Type} (r : Remote) : Redis.Conversation α → α × Remote
  | .done a => (a, r)
  | .ask c next =>
    let (reply, r) := r.command c
    r.converse (next reply)

/-- The answer to a call. -/
def answer (r : Remote) : (c : Call) → Except Backend.Halt (c.Answer × Remote)
  | .loadSession key => .ok (r.converse (Redis.load key))
  | .storeSession key value lifetime =>
    .ok (r.converse (Redis.store key value (lifetime.map (· * 1000000000))))
  | .deleteSession key => .ok (r.converse (Redis.delete key))
  | c =>
    match r.backend.answer c with
    | .error halt => .error halt
    | .ok (answer, b) => .ok (answer, { r with backend := b })

/-- Runs a program to its end. -/
def run {α : Type} (r : Remote) : Service α → Except Backend.Halt α × Remote
  | .done a => (.ok a, r)
  | .ask c next =>
    match r.answer c with
    | .error halt => (.error halt, r)
    | .ok (answer, r) => r.run (next answer)

end Remote

end FederatedLogin
