import DataLayer.Database.Registry
import DataLayer.Settings.EnvironmentFile
import DataLayer.Settings.Validate

/-! The settings of a database and of the application: given by name, by environment variables, or
by a file of such variables, in this order. -/

namespace DataLayer

open DataLayer.Settings DataLayer.Text

/-- Where settings are looked for. Some of the given values say how the variables are read. -/
structure Surroundings where
  given : List (String × Value) := []
  environment : List (String × String) := []
  file : Option String := none

/-- The settings of a database. -/
structure DatabaseSettings where
  driver : EngineKind
  host : String
  port : Int
  name : String
  user : String
  password : String
  charset : String
  timezone : String
  path : String

/-- The settings of the application. -/
structure AppSettings where
  name : String
  env : String
  debug : Bool
  logLevel : String
  migrationsDir : Path
  seedsDir : Path

namespace Surroundings

/-- The variables that every environment has. -/
def standing : List (String × String) := [("TZ", "UTC"), ("COLUMNS", "1000")]

private def option? (s : Surroundings) (name : String) : Option Value :=
  match Entries.get? name s.given with
  | some .null => none
  | other => other

private def holds (s : Surroundings) (name : String) : Bool :=
  ((s.option? name).map Value.isTruthy).getD false

/-- Holds when the names of variables have to be written exactly as asked for. -/
def isExact (s : Surroundings) : Bool := s.holds "_case_sensitive"

/-- A name of a variable as it is compared. -/
def compared (s : Surroundings) (name : String) : String := if s.isExact then name else lower name

/-- The file in which variables are looked for, unless none or another one is asked for. -/
def chosenFile (s : Surroundings) : Option String :=
  let isUsual (value : Value) : Bool :=
    match value.text? with
    | some word => Path.ofText word == Path.ofText ".env"
    | none => false
  match Entries.get? "_env_file" s.given with
  | none => s.file
  | some value =>
    let named := match value with
      | .list items => items.any isUsual
      | .tuple items => items.any isUsual
      | other => isUsual other
    if named then s.file else none

/-- Holds of a path, and of what yields paths one by one. -/
private def namesPaths (value : Value) : Bool :=
  match value.text?, value.elements? with
  | some _, _ => true
  | none, some items => items.all fun item => item.text?.isSome
  | none, none => false

/-- Checks that a setting, if it is there, names paths. -/
def checkPaths (s : Surroundings) (name : String) : Except Fault Unit :=
  if ((s.option? name).map namesPaths).getD true then .ok ()
  else .error (.misuse (.unsuitable "paths are texts"))

/-- How the names of encodings start. -/
def encodings : List String :=
  ["utf", "u8", "u7", "u16", "u32", "ascii", "us", "646", "iso", "latin", "l1", "8859", "cp",
    "windows", "mac", "koi", "big5", "gb", "euc", "shift", "sjis", "hz", "idna", "punycode"]

/-- Checks that the file, if there is one, is to be read in an encoding that exists. -/
def checkEncoding (s : Surroundings) : Except Fault Unit :=
  match s.chosenFile, s.option? "_env_file_encoding" with
  | some _, some value =>
    match value.text? with
    | some word =>
      let isKnown := encodings.any fun start => start.toList.isPrefixOf (lower word).toList
      if word = "" || isKnown then .ok ()
      else .error (.raised "LookupError" (.text ("unknown encoding: " ++ word)))
    | none =>
      if value.isTruthy then .error (.misuse (.unsuitable "an encoding is a text")) else .ok ()
  | _, _ => .ok ()

/-- Checks how settings are to be looked for, `first` being the first one that is. -/
def check (s : Surroundings) (first : String) : Except Fault Unit := do
  s.checkPaths "_env_file"
  s.checkEncoding
  if ((s.option? "_env_prefix").map fun value => value.text?.isNone).getD false then
    .error (.misuse (.unsoughtSetting first))
  s.checkPaths "_secrets_dir"

/-- What stands before the name of a setting in the name of its variable. -/
def area (s : Surroundings) (usual : String) : String :=
  ((s.option? "_env_prefix").bind Value.text?).getD usual

/-- The value of a variable. Empty ones are no values if they are to be passed over, and one word
can stand for nothing. -/
private def meaning (s : Surroundings) (text : String) : Option Value :=
  if text.isEmpty && s.holds "_env_ignore_empty" then none
  else if (s.option? "_env_parse_none_str").bind Value.text? = some text then some .null
  else some (.text text)

private def gathered (s : Surroundings) (row : List (String × Option String)) :
    List (String × Value) :=
  row.foldl (fun done entry =>
    match entry.2 with
    | some text =>
      match s.meaning text with
      | some value => Entries.put (s.compared entry.1) value done
      | none => done
    | none => Entries.erase (s.compared entry.1) done) []

/-- The environment variables by their names as compared; of equal names the last one counts. -/
def environmentValues (s : Surroundings) : List (String × Value) :=
  s.gathered (s.environment.map fun entry => (entry.1, some entry.2))

/-- The variables of the file by their names as compared. -/
def fileValues (s : Surroundings) : List (String × Value) :=
  match s.chosenFile with
  | none => []
  | some text => s.gathered (EnvironmentFile.assignments (standing ++ s.environment) text)

/-- The value of the first of some variables that the environment has, or else the file. -/
def environmental? (s : Surroundings) (names : List String) : Option Value :=
  let names := names.map s.compared
  (names.findSome? fun name => Entries.get? name s.environmentValues).or
    (names.findSome? fun name => Entries.get? name s.fileValues)

/-- The value of a setting: given under its own name, or by the variable of that name. -/
def setting? (s : Surroundings) (usual name : String) : Option Value :=
  (Entries.get? name s.given).or (s.environmental? [s.area usual ++ name])

/-- The variables that a password can stand in. -/
def passwordVariables : List String := ["DB_PASS", "DB_PASSWORD"]

/-- The names under which a password can be given. -/
def passwordNames : List String := passwordVariables ++ ["password"]

/-- A password in the file under its own name. Only there the area may be left out of the name of
a variable that is not asked for. -/
private def ownPassword? (s : Surroundings) : Option Value :=
  let name := s.area "DB_" ++ "password"
  if (passwordVariables.map s.compared).contains name then none
  else match Entries.get? name s.fileValues with
    | some (.text "") => none
    | some .null => none
    | other => other

/-- The password with the name that it was given under: any of its names, or one of its
variables. -/
def password? (s : Surroundings) : Option (String × Value) :=
  let givenName := passwordNames.find? fun name => Entries.contains name s.given
  match givenName with
  | some name => (Entries.get? name s.given).map fun value => (name, value)
  | none =>
    ((s.environmental? passwordVariables).or s.ownPassword?).map fun value => ("DB_PASS", value)

end Surroundings

private def checkedWith {α : Type} (check : String → Value → Checked α) (name : String)
    (default : α) (value? : Option Value) : Checked α :=
  match value? with
  | some value => check name value
  | none => .ok default

private def settled {α : Type} (checked : Checked α) : Except Fault α :=
  checked.mapError Fault.settings

/-- The settings of a database. -/
def DatabaseSettings.load (s : Surroundings) : Except Fault DatabaseSettings := do
  s.check "driver"
  let text (name default : String) : Checked String :=
    checkedWith checkText name default (s.setting? "DB_" name)
  let driver := checkedWith checkEngine "driver" .mysql (s.setting? "DB_" "driver")
  let port := checkedWith checkWhole "port" 3306 (s.setting? "DB_" "port")
  let password := match s.password? with
    | some (name, value) => checkText name value
    | none => .ok ""
  settled (gather (gather (gather (gather (gather (gather (gather (gather (gather
    (.ok DatabaseSettings.mk) driver) (text "host" "127.0.0.1")) port) (text "name" "test"))
    (text "user" "root")) password) (text "charset" "utf8mb4")) (text "timezone" "UTC"))
    (text "path" ":memory:"))

namespace AppSettings

/-- The settings of the application. The name of the environment is stripped and lowered. -/
def load (s : Surroundings) : Except Fault AppSettings := do
  s.check "name"
  let text (name default : String) : Checked String :=
    checkedWith checkText name default (s.setting? "APP_" name)
  let path (name : String) (default : List String) : Checked Path :=
    checkedWith checkPath name { parts := default } (s.setting? "APP_" name)
  let env := (text "env" "production").map fun word => lower (strip word)
  settled (gather (gather (gather (gather (gather (gather
    (.ok AppSettings.mk) (text "name" "Project Name")) env)
    (checkedWith checkTruth "debug" false (s.setting? "APP_" "debug"))) (text "log_level" "INFO"))
    (path "migrations_dir" ["database", "migrations"])) (path "seeds_dir" ["database", "seeds"]))

/-- Holds where the words of engines may be shown. -/
def isDevelopment (app : AppSettings) : Bool := app.env == "development"

end AppSettings

namespace DatabaseSettings

/-- The database that settings describe. The words of its engine are shown in development only. -/
def choose (settings : DatabaseSettings) (app : AppSettings) : Except Fault Registry.Choice :=
  let expose := ("expose_errors", Value.bool app.isDevelopment)
  match settings.driver with
  | .sqlite => Registry.find (.engineKind .sqlite) [("path", .text settings.path), expose]
  | .mysql => Registry.find (.engineKind .mysql)
      [("host", .text settings.host), ("port", .int settings.port),
        ("database", .text settings.name), ("username", .text settings.user),
        ("password", .text settings.password), ("charset", .text settings.charset),
        ("timezone", .text settings.timezone), expose]

end DatabaseSettings

namespace Surroundings

/-- The database of the settings. -/
def choose (s : Surroundings) : Except Fault Registry.Choice := do
  let settings ← DatabaseSettings.load s
  settings.choose (← AppSettings.load s)

/-- The database of a command: an embedded one at a path, or that of the settings. -/
def chooseAt (s : Surroundings) (path : Option String) : Except Fault Registry.Choice := do
  let app ← AppSettings.load s
  match path with
  | some path =>
    if path = "" then (← DatabaseSettings.load s).choose app
    else Misuse.lift (Registry.embedded
      [("path", .text path), ("expose_errors", .bool app.isDevelopment)])
  | none => (← DatabaseSettings.load s).choose app

end Surroundings
end DataLayer
