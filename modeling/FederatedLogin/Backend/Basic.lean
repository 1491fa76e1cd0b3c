import FederatedLogin.Provider.Adapter
import FederatedLogin.Provider.Stub
import FederatedLogin.Session.Store

/-!
# In-memory surroundings

Everything that a service asks of its surroundings, kept in memory: tables, a session store, a
clock, and adapters. Storage can be told to fail, and every call is recorded.
-/

namespace FederatedLogin

namespace Backend

/-- The kinds of calls on users and links. -/
inductive Point where
  | userById
  | userByEmail
  | linkOf
  | updateLink
  | begin
  | insertUser
  | insertLink
  | commit
  deriving DecidableEq, Repr, Inhabited

namespace Point

/-- All kinds of calls on users and links. -/
def all : List Point :=
  [userById, userByEmail, linkOf, updateLink, begin, insertUser, insertLink, commit]

/-- The name of a kind of calls. -/
def name : Point → String
  | userById => "users.get"
  | userByEmail => "users.get_by_email"
  | linkOf => "links.get"
  | updateLink => "links.update"
  | begin => "begin"
  | insertUser => "insert_user"
  | insertLink => "insert_link"
  | commit => "commit"

/-- The kind of calls of a name. -/
def ofName? (s : String) : Option Point := all.find? (·.name = s)

end Point

/-- The kind of a call, if it is one on users and links. -/
def point? : Call → Option Point
  | .userById _ => some .userById
  | .userByEmail _ => some .userByEmail
  | .linkOf _ _ => some .linkOf
  | .updateLink _ => some .updateLink
  | .begin => some .begin
  | .insertUser _ => some .insertUser
  | .insertLink _ => some .insertLink
  | .commit => some .commit
  | _ => none

/-- What serves the calls to a provider. -/
inductive Adapter where
  | stub (stub : Provider.Stub)
  /-- A provider that never answers. -/
  | hanging
  | http (adapter : Provider.Adapter)
  deriving Repr

/-- The failures that storage is told to have. -/
structure Faults where
  /-- For each kind of call, the failures of the next calls; none for a call that works. -/
  storage : List (Point × List (Option StorageError)) := []
  /-- The failure of all loads, stores and deletions of session values. -/
  load : Option String := none
  store : Option String := none
  delete : Option String := none
  deriving Repr, Inhabited

/-- The failures after those of one kind of call are replaced. -/
def Faults.plan (f : Faults) (point : Point) (queue : List (Option StorageError)) : Faults :=
  { f with storage := (point, queue) :: f.storage.filter fun q => q.1 ≠ point }

/-- The failure of the next call of a kind. -/
def Faults.next (f : Faults) (point : Point) : Option StorageError :=
  ((f.storage.lookup point).bind List.head?).getD none

/-- The failures after the next call of a kind. -/
def Faults.advance (f : Faults) (point : Point) : Faults :=
  { f with storage := f.storage.map fun q => if q.1 = point then (q.1, q.2.drop 1) else q }

end Backend

/-- Surroundings that are kept in memory. -/
structure Backend where
  clock : Time.Instant
  /-- How many nanoseconds pass between two readings of the clock. -/
  tick : Nat := 0
  /-- The clock of the session store, in nanoseconds. -/
  uptime : Nat := 0
  hostname : Option String := none
  /-- The number from which identifiers are made. -/
  seed : Nat := 0
  users : Nat := 0
  sessionIds : Nat := 0
  tables : Tables := {}
  /-- The unit of work of the program that runs. -/
  work : UnitOfWork := {}
  sessions : Session.Store := {}
  adapters : List Backend.Adapter := []
  /-- What providers will respond. Without a response they cannot be reached. -/
  responses : List (Option Provider.HttpResponse) := []
  requests : List Provider.HttpRequest := []
  faults : Backend.Faults := {}
  log : List (Level × String) := []
  calls : List Call := []
  deriving Inhabited

namespace Backend

/-- Why a program does not come to its end. -/
inductive Halt where
  /-- A provider does not answer. -/
  | hung
  /-- The end of a session value does not exist. -/
  | clockOverflow
  deriving DecidableEq, Repr

/-- The time, and the surroundings after it was read. -/
def readClock (b : Backend) : Time.Instant × Backend :=
  (b.clock, { b with clock := (b.clock.add? b.tick).getD b.clock })

/-- The identifier of a user with the given number. -/
def userId (b : Backend) (n : Nat) : Uuid := Uuid.ofRandom (b.seed + 2 * n)

/-- The identifier of a session with the given number. -/
def sessionId (b : Backend) (n : Nat) : Uuid := Uuid.ofRandom (b.seed + 2 * n + 1)

/-- Writes a line to the log. -/
def write (b : Backend) (level : Level) (text : String) : Backend :=
  { b with log := b.log ++ [(level, text)] }

/-- Answers a question of an adapter. What the client refuses is no request to a provider. -/
def answerHttp (b : Backend) : (q : Provider.HttpCall) → q.Answer × Backend
  | .now => b.readClock
  | .log level text => ((), b.write level text)
  | .send request =>
    match b.responses with
    | [] => (none, b)
    | response :: rest =>
      if request.isWeb then
        (response, { b with responses := rest, requests := b.requests ++ [request] })
      else (none, b)

/-- Runs the program of an adapter. -/
def runTraffic {α : Type} (b : Backend) : Provider.Traffic α → α × Backend
  | .done a => (a, b)
  | .ask q next =>
    let (answer, b) := b.answerHttp q
    b.runTraffic (next answer)

/-- The names of the calls on users and links so far. -/
def pointNames (b : Backend) : List String := (b.calls.filterMap point?).map Point.name

/-- The stubs among the adapters, with their numbers. -/
def stubs (b : Backend) : List (Nat × Provider.Stub) :=
  b.adapters.zipIdx.filterMap fun a =>
    match a.1 with
    | .stub s => some (a.2, s)
    | _ => none

/-- Replaces an adapter by a stub in its new state. -/
def setStub (b : Backend) (n : Nat) (s : Provider.Stub) : Backend :=
  { b with adapters := b.adapters.set n (.stub s) }

/-- Exchanges a code with an adapter. -/
def exchange (b : Backend) (n : Nat) (grant : Provider.Grant) :
    Except Halt (Except Provider.Error TokenSet × Backend) :=
  match b.adapters[n]? with
  | none => .error .hung
  | some .hanging => .error .hung
  | some (.stub s) =>
    if s.failsExchange then
      let (result, s) := s.exchange b.clock grant.code
      .ok (result, b.setStub n s)
    else
      let (now, b) := b.readClock
      let (result, s) := s.exchange now grant.code
      .ok (result, b.setStub n s)
  | some (.http a) => .ok (b.runTraffic (a.exchange grant))

/-- Fetches an identity with an adapter. -/
def identity (b : Backend) (n : Nat) (accessToken : String) :
    Except Halt (Except Provider.Error Identity × Backend) :=
  match b.adapters[n]? with
  | none => .error .hung
  | some .hanging => .error .hung
  | some (.stub s) =>
    let (result, s) := s.fetch
    .ok (result, b.setStub n s)
  | some (.http a) => .ok (b.runTraffic (a.fetchIdentity accessToken))

/-! ## Storage -/

/-- A record, or the error that there is none. -/
def found {α : Type} : Option α → Except StorageError α
  | some a => .ok a
  | none => .error .notFound

/-- Adds rows to the unit of work. -/
def insert (b : Backend) (result : Except StorageError UnitOfWork) :
    Except StorageError Unit × Backend :=
  match result with
  | .ok work => (.ok (), { b with work := work })
  | .error e => (.error e, b)

/-- Stores tokens of a link. -/
def updateLink (b : Backend) (l : Link) : Except StorageError Unit × Backend :=
  match b.tables.updateLink l with
  | .ok tables => (.ok (), { b with tables := tables })
  | .error e => (.error e, b)

/-- Commits the unit of work. -/
def commit (b : Backend) : Except StorageError Unit × Backend :=
  let (result, work, tables) := b.work.commit b.tables
  (result, { b with work := work, tables := tables })

/-- Stores a session value for a number of seconds, if the end of it exists. -/
def storeSession (b : Backend) (key value : String) (lifetime : Option Nat) :
    Except Halt (Except Session.Error Unit × Backend) :=
  match b.faults.store with
  | some cause => .ok (.error (.store cause), b)
  | none =>
    match b.sessions.store? b.uptime key value (lifetime.map (· * 1000000000)) with
    | some sessions => .ok (.ok (), { b with sessions := sessions })
    | none => .error .clockOverflow

/-- Looks a session value up. -/
def loadSession (b : Backend) (key : String) :
    Except Session.Error (Option String) × Backend :=
  match b.faults.load with
  | some cause => (.error (.store cause), b)
  | none =>
    let (value, sessions) := b.sessions.load b.uptime key
    (.ok value, { b with sessions := sessions })

/-- Deletes a session value. -/
def deleteSession (b : Backend) (key : String) : Except Session.Error Unit × Backend :=
  match b.faults.delete with
  | some cause => (.error (.store cause), b)
  | none => (.ok (), { b with sessions := b.sessions.erase key })

/-! ## Answers -/

/-- The answer to a call when no failure is due. -/
def perform (b : Backend) : (c : Call) → Except Halt (c.Answer × Backend)
  | .now => .ok b.readClock
  | .newUserId => .ok (b.userId b.users, { b with users := b.users + 1 })
  | .newSessionId => .ok (b.sessionId b.sessionIds, { b with sessionIds := b.sessionIds + 1 })
  | .hostname => .ok (b.hostname, b)
  | .log level text => .ok ((), b.write level text)
  | .userById id => .ok (found (b.tables.userById? id), b)
  | .userByEmail email => .ok (found (b.tables.userByEmail? email), b)
  | .linkOf userId issuer => .ok (found (b.tables.link? userId issuer), b)
  | .updateLink l => .ok (b.updateLink l)
  | .begin => .ok (.ok (), { b with work := {} })
  | .insertUser u => .ok (b.insert (b.work.insertUser u))
  | .insertLink l => .ok (b.insert (b.work.insertLink l))
  | .commit => .ok b.commit
  | .loadSession key => .ok (b.loadSession key)
  | .storeSession key value lifetime => b.storeSession key value lifetime
  | .deleteSession key => .ok (b.deleteSession key)
  | .exchange n grant => b.exchange n grant
  | .identity n accessToken => b.identity n accessToken

/-- The answer to a call of storage that fails. -/
def refusal? : (c : Call) → StorageError → Option c.Answer
  | .userById _, e => some (.error e)
  | .userByEmail _, e => some (.error e)
  | .linkOf _ _, e => some (.error e)
  | .updateLink _, e => some (.error e)
  | .begin, e => some (.error e)
  | .insertUser _, e => some (.error e)
  | .insertLink _, e => some (.error e)
  | .commit, e => some (.error e)
  | _, _ => none

/-- The failure that is due for a call. -/
def dueFault (b : Backend) (c : Call) : Option StorageError := (point? c).bind b.faults.next

/-- The surroundings after a call is recorded. -/
def record (b : Backend) (c : Call) : Backend :=
  let faults :=
    match point? c with
    | some point => b.faults.advance point
    | none => b.faults
  { b with calls := b.calls ++ [c], faults := faults }

/-- The answer to a call. A call that is to fail does not reach storage. -/
def answer (b : Backend) (c : Call) : Except Halt (c.Answer × Backend) :=
  match (b.dueFault c).bind (refusal? c) with
  | some refusal => .ok (refusal, b.record c)
  | none => (b.record c).perform c

/-! ## Runs -/

/-- Runs a program to its end. With an early end comes what the surroundings were by then. -/
def run {α : Type} (b : Backend) : Service α → Except Halt α × Backend
  | .done a => (.ok a, b)
  | .ask c next =>
    match b.answer c with
    | .error halt => (.error halt, b.record c)
    | .ok (answer, b) => b.run (next answer)

/-- The call lets other programs go on: it looks an address up, and does not fail. -/
def yields (b : Backend) : Call → Bool
  | .userByEmail email => (b.dueFault (.userByEmail email)).isNone
  | _ => false

/-- Runs a program until it ends or lets others go on. -/
def runTurn {α : Type} (b : Backend) : Service α → Except Halt (Service α) × Backend
  | .done a => (.ok (.done a), b)
  | .ask c next =>
    match b.answer c with
    | .error halt => (.error halt, b.record c)
    | .ok (answer, after) =>
      if b.yields c then (.ok (next answer), after) else after.runTurn (next answer)

/-- A program that waits for its turn, and its unit of work. -/
structure Process (α : Type) where
  program : Service α
  work : UnitOfWork := {}

/-- Gives every program one turn. -/
def runRound {α : Type} (b : Backend) : List (Process α) → Except Halt (List (Process α)) × Backend
  | [] => (.ok [], b)
  | p :: ps =>
    match ({ b with work := p.work } : Backend).runTurn p.program with
    | (.error halt, b) => (.error halt, b)
    | (.ok program, b) =>
      match b.runRound ps with
      | (.error halt, after) => (.error halt, after)
      | (.ok rest, after) => (.ok (⟨program, b.work⟩ :: rest), after)

/-- Gives all programs a number of turns, in rounds, and then runs each to its end. -/
def runRounds {α : Type} (b : Backend) (ps : List (Process α)) :
    Nat → Except Halt (List α) × Backend
  | 0 => finish b ps
  | rounds + 1 =>
    match b.runRound ps with
    | (.error halt, b) => (.error halt, b)
    | (.ok ps, b) => b.runRounds ps rounds
where
  /-- Runs each program to its end. -/
  finish (b : Backend) : List (Process α) → Except Halt (List α) × Backend
    | [] => (.ok [], b)
    | p :: ps =>
      match ({ b with work := p.work } : Backend).run p.program with
      | (.error halt, b) => (.error halt, b)
      | (.ok a, b) =>
        match finish b ps with
        | (.error halt, b) => (.error halt, b)
        | (.ok rest, b) => (.ok (a :: rest), b)

end Backend

end FederatedLogin
