import DataLayer.Fault.Basic

/-! The settings of one connection, and its target as it may be shown. -/

namespace DataLayer

/-- The settings of a connection. An embedded database uses the path, a server the rest. -/
structure Config where
  kind : Value := .engineKind .mysql
  path : Value := .null
  host : Value := .text "127.0.0.1"
  port : Value := .int 3306
  database : Value := .text ""
  username : Value := .null
  password : Value := .null
  charset : Value := .text "utf8mb4"
  timezone : Value := .text "UTC"
  connectTimeout : Value := .int 10
  options : List (String × Value) := []

namespace Config

/-- The value, or another one when it counts as nothing. -/
def orElse (value other : Value) : Value := if value.isTruthy then value else other

/-- The path of an embedded database; without one it lives in memory. -/
def embeddedPath (c : Config) : Value := orElse c.path (.text ":memory:")

/-- The target of an embedded database. -/
def embeddedTarget (c : Config) : String := "sqlite:///" ++ c.embeddedPath.display

/-- The target of a server. The password shows only as three stars. -/
def serverTarget (c : Config) : String :=
  "mysql://" ++ (orElse c.username (.text "")).display
    ++ (if c.password.isTruthy then ":***" else "")
    ++ "@" ++ c.host.display ++ ":" ++ c.port.display ++ "/" ++ c.database.display

/-- The target of a connection, for logs and people. -/
def describe (c : Config) : Except Fault String :=
  match c.kind.text? with
  | some "sqlite" => .ok c.embeddedTarget
  | some "mysql" => .ok c.serverTarget
  | _ => refuse (.of .config ("Unsupported database type: " ++ c.kind.display))

end Config
end DataLayer
