import FederatedLogin.Account.Tokens
import FederatedLogin.Provider.Credentials
import FederatedLogin.Session.Config
import FederatedLogin.Text.Digits

/-!
# Settings

The settings of the service, in sections. Every setting that is left out has a default; only the
credentials of a provider that is offered have none. Two of the defaults are others in a build for
development than in one for use: the format of log lines, and whether cookies need an encrypted
connection.
-/

namespace FederatedLogin

open Json

namespace Settings

/-- How log lines are written. -/
inductive LogFormat where
  | pretty
  | json
  deriving DecidableEq, Repr, Inhabited

namespace LogFormat

/-- The name of a format. -/
def name : LogFormat → String
  | pretty => "pretty"
  | json => "json"

/-- The format of a name. -/
def ofName? (s : String) : Option LogFormat := [pretty, json].find? (·.name = s)

/-- The default format of a build. -/
def standard : Build → LogFormat
  | .debug => .pretty
  | .release => .json

end LogFormat

/-! ## Sections -/

/-- The settings of the server. What is left out is as in a build for development. -/
structure Server where
  host : String := "127.0.0.1"
  port : Nat := 8080
  /-- The number of milliseconds after which a request is given up. -/
  requestTimeout : Nat := 30000
  logFormat : LogFormat := .pretty
  deriving DecidableEq, Repr, Inhabited

namespace Server

/-- The default section of a build. -/
def standard (build : Build) : Server := { logFormat := .standard build }

/-- The written form of the section in a build. -/
def shape (build : Build) : Shape :=
  .record
    [(["host"], .default (.string "127.0.0.1"), .text),
     (["port"], .default (.integer 8080), .unsigned 16),
     (["request_timeout_ms"], .default (.integer 30000), .unsigned 64),
     (["log_format"], .default (.string (LogFormat.standard build).name),
      .choice ["pretty", "json"])]

/-- The section that a value of the shape stands for. -/
def ofValue? (v : Value) : Option Server := do
  some
    { host := ← (← v.member? "host").string?
      port := ← (← v.member? "port").natural?
      requestTimeout := ← (← v.member? "request_timeout_ms").natural?
      logFormat := ← LogFormat.ofName? (← (← v.member? "log_format").string?) }

/-- The section as a value. -/
def toValue (s : Server) : Value :=
  .object
    [("host", .string s.host),
     ("port", .integer s.port),
     ("request_timeout_ms", .integer s.requestTimeout),
     ("log_format", .string s.logFormat.name)]

/-- The address on which the server listens. -/
def bindAddress (s : Server) : String := s.host ++ ":" ++ String.ofList (Text.decimal s.port)

end Server

/-- The settings of the database. -/
structure Database where
  url : String := "postgres://localhost/idlink"
  maxConnections : Nat := 10
  minConnections : Nat := 1
  runMigrations : Bool := true
  deriving DecidableEq, Repr, Inhabited

namespace Database

/-- The written form of the section. -/
def shape : Shape :=
  .record
    [(["url"], .default (.string "postgres://localhost/idlink"), .text),
     (["max_connections"], .default (.integer 10), .unsigned 32),
     (["min_connections"], .default (.integer 1), .unsigned 32),
     (["run_migrations"], .default (.bool true), .flag)]

/-- The section that a value of the shape stands for. -/
def ofValue? (v : Value) : Option Database := do
  some
    { url := ← (← v.member? "url").string?
      maxConnections := ← (← v.member? "max_connections").natural?
      minConnections := ← (← v.member? "min_connections").natural?
      runMigrations := ← (← v.member? "run_migrations").bool? }

/-- The section as a value. -/
def toValue (d : Database) : Value :=
  .object
    [("url", .string d.url),
     ("max_connections", .integer d.maxConnections),
     ("min_connections", .integer d.minConnections),
     ("run_migrations", .bool d.runMigrations)]

end Database

/-- The settings of the key-value server that keeps sessions. -/
structure Redis where
  url : String := "redis://127.0.0.1:6379"
  deriving DecidableEq, Repr, Inhabited

namespace Redis

/-- The written form of the section. -/
def shape : Shape := .record [(["url"], .default (.string "redis://127.0.0.1:6379"), .text)]

/-- The section that a value of the shape stands for. -/
def ofValue? (v : Value) : Option Redis := do some ⟨← (← v.member? "url").string?⟩

/-- The section as a value. -/
def toValue (r : Redis) : Value := .object [("url", .string r.url)]

end Redis

/-- The lifetimes in seconds of tokens for which a provider gives none. -/
structure Tokens where
  accessLifetime : Nat := 3600
  refreshLifetime : Nat := 2592000
  deriving DecidableEq, Repr, Inhabited

namespace Tokens

/-- The written form of the section. -/
def shape : Shape :=
  .record
    [(["default_access_ttl_secs"], .default (.integer 3600), .unsigned 32),
     (["default_refresh_ttl_secs"], .default (.integer 2592000), .unsigned 32)]

/-- The section that a value of the shape stands for. -/
def ofValue? (v : Value) : Option Tokens := do
  some
    { accessLifetime := ← (← v.member? "default_access_ttl_secs").natural?
      refreshLifetime := ← (← v.member? "default_refresh_ttl_secs").natural? }

/-- The section as a value. -/
def toValue (t : Tokens) : Value :=
  .object
    [("default_access_ttl_secs", .integer t.accessLifetime),
     ("default_refresh_ttl_secs", .integer t.refreshLifetime)]

/-- The lifetimes that are assumed where a provider gives none. -/
def lifetimes (t : Tokens) : Lifetimes := ⟨t.accessLifetime, t.refreshLifetime⟩

end Tokens

/-- The settings of calls to providers. -/
structure HttpClient where
  /-- The number of seconds after which a call is given up. -/
  timeout : Nat := 10
  deriving DecidableEq, Repr, Inhabited

namespace HttpClient

/-- The written form of the section. -/
def shape : Shape := .record [(["timeout_secs"], .default (.integer 10), .unsigned 64)]

/-- The section that a value of the shape stands for. -/
def ofValue? (v : Value) : Option HttpClient := do some ⟨← (← v.member? "timeout_secs").natural?⟩

/-- The section as a value. -/
def toValue (h : HttpClient) : Value := .object [("timeout_secs", .integer h.timeout)]

end HttpClient

end Settings

/-! ## All sections -/

/-- The settings of the service. What is left out is as in a build for development. -/
structure Settings where
  server : Settings.Server := {}
  database : Settings.Database := {}
  redis : Settings.Redis := {}
  session : Session.Config := {}
  tokens : Settings.Tokens := {}
  httpClient : Settings.HttpClient := {}
  providers : Provider.Config := {}
  deriving DecidableEq, Repr, Inhabited

namespace Settings

/-- The default settings of a build. -/
def standard (build : Build) : Settings where
  server := .standard build
  session := .standard build

/-- The written form of the settings in a build. -/
def shape (build : Build) : Shape :=
  .record
    [(["server"], .default (Server.shape build).blank, Server.shape build),
     (["database"], .default Database.shape.blank, Database.shape),
     (["redis"], .default Redis.shape.blank, Redis.shape),
     (["session"], .default (Session.Config.shape build).blank, Session.Config.shape build),
     (["tokens"], .default Tokens.shape.blank, Tokens.shape),
     (["http_client"], .default HttpClient.shape.blank, HttpClient.shape),
     (["providers"], .default Provider.Config.shape.blank, Provider.Config.shape)]

/-- The settings that a value of the shape stands for. -/
def ofValue? (v : Value) : Option Settings := do
  some
    { server := ← Server.ofValue? (← v.member? "server")
      database := ← Database.ofValue? (← v.member? "database")
      redis := ← Redis.ofValue? (← v.member? "redis")
      session := ← Session.Config.ofValue? (← v.member? "session")
      tokens := ← Tokens.ofValue? (← v.member? "tokens")
      httpClient := ← HttpClient.ofValue? (← v.member? "http_client")
      providers := ← Provider.Config.ofValue? (← v.member? "providers") }

/-- The settings as a value. -/
def toValue (s : Settings) : Value :=
  .object
    [("server", s.server.toValue),
     ("database", s.database.toValue),
     ("redis", s.redis.toValue),
     ("session", s.session.toValue),
     ("tokens", s.tokens.toValue),
     ("http_client", s.httpClient.toValue),
     ("providers", s.providers.toValue)]

end Settings

end FederatedLogin
