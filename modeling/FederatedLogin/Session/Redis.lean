import FederatedLogin.Program
import FederatedLogin.Session.Basic
import FederatedLogin.Text.Utf8

/-!
# Sessions on a key-value server

Session values can be kept on a server that takes commands. Lifetimes are sent in whole seconds, at
least one. `Server` is a server that keeps everything until it is deleted.
-/

namespace FederatedLogin.Session.Redis

/-- A command to a server. -/
inductive Command where
  | get (key : String)
  /-- Stores a value, for a number of seconds if the option `EX` is given. -/
  | set (key value : String) (seconds : Option Nat)
  | del (key : String)
  deriving DecidableEq, Repr

/-- What a server replies. -/
inductive Reply where
  | nothing
  | ok
  | bytes (bytes : List UInt8)
  | count (n : Nat)
  | failure (text : String)
  deriving DecidableEq, Repr

/-- A program that sends commands. -/
abbrev Conversation (α : Type) := Program Command (fun _ => Reply) α

/-- Sends a command. -/
def send (c : Command) : Conversation Reply := Program.question c

/-- The error of a reply that does not fit the command. -/
def unexpected : Error := .store "unexpected reply"

/-- The value under a key. -/
def load (key : String) : Conversation (Except Error (Option String)) := do
  match ← send (.get key) with
  | .nothing => pure (.ok none)
  | .bytes bytes =>
    match Text.ofBytes? bytes with
    | some cs => pure (.ok (some (String.ofList cs)))
    | none => pure (.error (.store "invalid utf-8"))
  | .failure text => pure (.error (.store text))
  | _ => pure (.error unexpected)

/-- Stores a value under a key, for a number of nanoseconds or until it is deleted. -/
def store (key value : String) (lifetime : Option Nat) : Conversation (Except Error Unit) := do
  match ← send (.set key value (lifetime.map fun n => max 1 (n / 1000000000))) with
  | .ok => pure (.ok ())
  | .failure text => pure (.error (.store text))
  | _ => pure (.error unexpected)

/-- Removes a key. -/
def delete (key : String) : Conversation (Except Error Unit) := do
  match ← send (.del key) with
  | .count _ => pure (.ok ())
  | .failure text => pure (.error (.store text))
  | _ => pure (.error unexpected)

/-! ## A server -/

/-- A server that keeps everything until it is deleted. -/
structure Server where
  entries : List (String × List UInt8) := []
  deriving DecidableEq, Repr, Inhabited

namespace Server

/-- The server without a key. -/
def erase (s : Server) (key : String) : Server := ⟨s.entries.filter fun e => e.1 ≠ key⟩

/-- The reply to a command, and the server after it. -/
def perform (s : Server) : Command → Reply × Server
  | .get key =>
    match s.entries.lookup key with
    | some bytes => (.bytes bytes, s)
    | none => (.nothing, s)
  | .set key value _ => (.ok, ⟨(key, Text.toBytes value.toList) :: (s.erase key).entries⟩)
  | .del key => (.count (if (s.entries.lookup key).isSome then 1 else 0), s.erase key)

end Server

/-- The reply of a server that cannot be reached. -/
def unreachable : Command → Reply := fun _ => .failure "connection refused"

end FederatedLogin.Session.Redis
