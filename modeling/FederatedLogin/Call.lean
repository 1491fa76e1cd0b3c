import FederatedLogin.Account.Tables
import FederatedLogin.Program
import FederatedLogin.Provider.Error
import FederatedLogin.Session.Basic

/-!
# Calls of the service

What the service asks of its surroundings: the clock, fresh identifiers, the log, storage of users
and links, storage of sessions, and the adapters of identity providers, which are known by number.
A service is a program that makes such calls.
-/

namespace FederatedLogin

/-- How grave a log line is. -/
inductive Level where
  | warning
  | error
  deriving DecidableEq, Repr

/-- The name of a level in a log line. -/
def Level.name : Level → String
  | warning => "WARN"
  | error => "ERROR"

/-- A question of the service to its surroundings. -/
inductive Call where
  | now
  | newUserId
  | newSessionId
  /-- The name of the host, if the surroundings give one. -/
  | hostname
  | log (level : Level) (text : String)
  | userById (id : Uuid)
  | userByEmail (email : String)
  | linkOf (userId : Uuid) (issuer : String)
  | updateLink (link : Link)
  /-- Starts the unit of work to which the inserts that follow belong. -/
  | begin
  | insertUser (user : User)
  | insertLink (link : Link)
  | commit
  | loadSession (key : String)
  /-- Stores a value, perhaps for a number of seconds only. -/
  | storeSession (key value : String) (lifetime : Option Nat)
  | deleteSession (key : String)
  | exchange (adapter : Nat) (grant : Provider.Grant)
  | identity (adapter : Nat) (accessToken : String)
  deriving DecidableEq, Repr

namespace Call

/-- What is answered to a call. -/
def Answer : Call → Type
  | now => Time.Instant
  | newUserId => Uuid
  | newSessionId => Uuid
  | hostname => Option String
  | log _ _ => Unit
  | userById _ => Except StorageError User
  | userByEmail _ => Except StorageError User
  | linkOf _ _ => Except StorageError Link
  | updateLink _ => Except StorageError Unit
  | begin => Except StorageError Unit
  | insertUser _ => Except StorageError Unit
  | insertLink _ => Except StorageError Unit
  | commit => Except StorageError Unit
  | loadSession _ => Except Session.Error (Option String)
  | storeSession _ _ _ => Except Session.Error Unit
  | deleteSession _ => Except Session.Error Unit
  | exchange _ _ => Except Provider.Error TokenSet
  | identity _ _ => Except Provider.Error Identity

end Call

/-- A program that makes calls. -/
abbrev Service (α : Type) := Program Call Call.Answer α

/-- Makes a call. -/
def call (c : Call) : Service c.Answer := Program.question c

/-- Writes a warning to the log. -/
def warn (text : String) : Service Unit := call (.log .warning text)

end FederatedLogin
