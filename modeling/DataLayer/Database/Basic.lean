import DataLayer.Calendar.Basic
import DataLayer.Database.Config
import DataLayer.Dialect
import DataLayer.Session

/-! A database: the settings of a connection together with the engine that it leads to. -/

namespace DataLayer

/-- A database on an engine with states in `σ`. `now` is what the clock shows. -/
structure Database (σ : Type) where
  kind : EngineKind
  config : Config
  exposeErrors : Value := .bool false
  timeout : Value := .null
  now : Moment
  driver : Driver σ

namespace Database

variable {σ : Type}

/-- The spelling of the statements that the database takes. -/
def dialect (db : Database σ) : Dialect := db.kind

/-- The target of the connection. -/
def target (db : Database σ) : String :=
  match db.kind with
  | .sqlite => db.config.embeddedTarget
  | .mysql => db.config.serverTarget

end Database
end DataLayer
