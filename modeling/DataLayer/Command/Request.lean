import DataLayer.Command.Arguments
import DataLayer.Folder.Path

/-! What is asked for on the command line. -/

namespace DataLayer.Command

/-- What a command does. -/
inductive Task where
  | migrate
  | rollback
  | status
  | makeMigration (name : String)
  | seed (target : Option String)
deriving DecidableEq, Repr

/-- A task, the embedded database that it is to use, and the folder that it is to work in. -/
structure Request where
  task : Task
  database : Option String := none
  folder : Option Path := none
deriving DecidableEq, Repr

/-- The names of the commands. -/
inductive Name where
  | migrate | rollback | status | makeMigration | seed
deriving DecidableEq, Repr

namespace Name

/-- Every command. -/
def all : List Name := [.migrate, .rollback, .status, .makeMigration, .seed]

/-- The word for a command. -/
def word : Name → String
  | .migrate => "migrate"
  | .rollback => "rollback"
  | .status => "status"
  | .makeMigration => "make-migration"
  | .seed => "seed"

/-- The command of a word. -/
def ofWord? (text : String) : Option Name := all.find? fun name => name.word == text

end Name

private def helpOption : OptionKind := { long := "help", takesValue := false }

private def databaseOption : OptionKind := { long := "database", short := some 'd' }

private def migrationsOption : OptionKind := { long := "migrations-dir", short := some 'm' }

private def seedsOption : OptionKind := { long := "seeds-dir", short := some 's' }

/-- The options that stand before a command. -/
def leadingOptions : List OptionKind :=
  [{ long := "version", short := some 'V', takesValue := false }, helpOption]

/-- The options of a command. -/
def Name.options : Name → List OptionKind
  | .makeMigration => [migrationsOption, helpOption]
  | .seed => [databaseOption, seedsOption, helpOption]
  | _ => [databaseOption, migrationsOption, helpOption]

/-- The option that names the folder of a command. -/
def Name.folderOption : Name → String
  | .seed => seedsOption.long
  | _ => migrationsOption.long

/-- The task of a command with operands. -/
def Name.task? (name : Name) (operands : List String) : Option Task :=
  match name, operands with
  | .migrate, [] => some .migrate
  | .rollback, [] => some .rollback
  | .status, [] => some .status
  | .makeMigration, [word] => some (.makeMigration word)
  | .seed, [] => some (.seed none)
  | .seed, [target] => some (.seed (some target))
  | _, _ => none

/-- What the arguments before a command come to. -/
inductive Opening where
  /-- They cannot be understood. -/
  | unclear
  | help
  | version
  | command (name : Name) (arguments : List String)

/-- Reads the arguments up to the command. -/
def Opening.ofArguments (arguments : List String) : Opening :=
  match takeApart leadingOptions false arguments with
  | none => .unclear
  | some { options := { name, .. } :: _, .. } => if name = "version" then .version else .help
  | some { options := [], operands := [] } => .unclear
  | some { options := [], operands := word :: rest } =>
    match Name.ofWord? word with
    | none => .unclear
    | some name => .command name rest

/-- What the arguments of a command come to. -/
inductive Order where
  /-- They cannot be understood. -/
  | unclear
  | help
  | request (request : Request)

/-- Reads the arguments of a command. -/
def Order.ofArguments (name : Name) (arguments : List String) : Order :=
  match takeApart name.options true arguments with
  | none => .unclear
  | some taken =>
    if (taken.last? "help").isSome then .help
    else match name.task? taken.operands with
      | none => .unclear
      | some task => .request
        { task
          database := taken.last? databaseOption.long
          folder := (taken.last? name.folderOption).map Path.ofText }

end DataLayer.Command
