import DataLayer.Database.Basic
import DataLayer.Script.Call
import DataLayer.Text.Case

/-! Databases by the name of their engine. -/

namespace DataLayer.Registry

open DataLayer.Script DataLayer.Script.Signature DataLayer.Text

/-- Opens up a database of one kind: what was asked for, without the engine that it leads to. -/
structure Choice where
  kind : EngineKind
  config : Config
  exposeErrors : Value
  timeout : Value

/-- The database on an engine. The complaints of a server always have words. -/
def Choice.on {σ : Type} (choice : Choice) (driver : Driver σ) (now : Moment) : Database σ where
  kind := choice.kind
  config := choice.config
  exposeErrors := choice.exposeErrors
  timeout := choice.timeout
  now := now
  driver := match choice.kind with
    | .sqlite => driver
    | .mysql => driver.worded

/-- Five seconds, the time that an embedded database waits for a lock. -/
def defaultTimeout : Value := .float ⟨0x4014000000000000⟩

/-- An embedded database from named arguments. -/
def embedded (named : List (String × Value)) : Except Misuse Choice := do
  let bound ← bind
    { owner := "SQLiteAdapter.__init__",
      parameters := [optional "path", keyword "timeout", keyword "expose_errors"],
      open? := true } [] named
  return { kind := .sqlite,
           config := { kind := .engineKind .sqlite, path := bound.getD "path" (.text ":memory:"),
                       options := bound.others },
           exposeErrors := bound.getD "expose_errors" (.bool false),
           timeout := bound.getD "timeout" defaultTimeout }

/-- A server from named arguments. -/
def server (named : List (String × Value)) : Except Misuse Choice := do
  let bound ← bind
    { owner := "MySQLAdapter.__init__",
      parameters := [optional "host", optional "port", optional "database", optional "username",
        optional "password", keyword "charset", keyword "timezone", keyword "expose_errors"],
      open? := true } [] named
  let config : Config := {}
  return { kind := .mysql,
           config := { kind := .engineKind .mysql,
                       host := bound.getD "host" config.host,
                       port := bound.getD "port" config.port,
                       database := bound.getD "database" config.database,
                       username := bound.getD "username" config.username,
                       password := bound.getD "password" config.password,
                       charset := bound.getD "charset" config.charset,
                       timezone := bound.getD "timezone" config.timezone,
                       options := bound.others },
           exposeErrors := bound.getD "expose_errors" (.bool false),
           timeout := .null }

/-- The names that the arguments of a database cannot have, being those of the look-up itself. -/
def reservedArguments : List String := ["self", "name", "db_type"]

private def unknown {α : Type} (name : String) : Except Fault α :=
  refuse (.of .config ("Unknown database adapter: " ++ name))

private def lowerByte (byte : UInt8) : UInt8 :=
  if 65 ≤ byte && byte ≤ 90 then byte + 32 else byte

/-- The database of an engine's name, in any case. A server has two names. -/
def find (name : Value) (named : List (String × Value)) : Except Fault Choice :=
  match named.find? fun entry => reservedArguments.contains entry.1 with
  | some entry => .error (.misuse (.unsuitable
      ("got multiple values for argument '" ++ entry.1 ++ "'")))
  | none =>
    match name.text? with
    | some word =>
      match lower word with
      | "mysql" => Misuse.lift (server named)
      | "mariadb" => Misuse.lift (server named)
      | "sqlite" => Misuse.lift (embedded named)
      | other => unknown other
    | none =>
      match name with
      | .bytes row => unknown (Value.bytes (row.map lowerByte)).display
      | other => .error (.misuse (.noSuchMember other.kindName "lower"))

/-- The settings of a connection from named arguments. -/
def config (named : List (String × Value)) : Except Misuse Config := do
  let bound ← bind
    { owner := "DatabaseConfig.__init__",
      parameters := ["db_type", "path", "host", "port", "database", "username", "password",
        "charset", "timezone", "connect_timeout", "options"].map optional } [] named
  let config : Config := {}
  return { kind := bound.getD "db_type" config.kind,
           path := bound.getD "path" config.path,
           host := bound.getD "host" config.host,
           port := bound.getD "port" config.port,
           database := bound.getD "database" config.database,
           username := bound.getD "username" config.username,
           password := bound.getD "password" config.password,
           charset := bound.getD "charset" config.charset,
           timezone := bound.getD "timezone" config.timezone,
           connectTimeout := bound.getD "connect_timeout" config.connectTimeout }

end DataLayer.Registry
