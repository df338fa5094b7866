import DataLayer.Folder.Tree
import DataLayer.Source.Template
import DataLayer.Text.Normal

/-! Loading source files: the names that a module binds, and the classes behind them. Names count by
their normal forms. -/

namespace DataLayer.Source

open DataLayer.Script DataLayer.Text

/-- The two kinds of work that classes are written for. -/
inductive Role where
  | migration
  | seeder
deriving DecidableEq, Repr

namespace Role

/-- The name of the base class of a role. -/
def name : Role → String
  | .migration => "Migration"
  | .seeder => "Seeder"

/-- The methods that a class of a role has to have, in alphabetical order. -/
def methods : Role → List String
  | .migration => ["down", "up"]
  | .seeder => ["run"]

end Role

/-- What a module is called: a value, which the module can replace, or even one of its classes. -/
inductive ModuleName where
  | value (value : Value)
  | class (serial : Nat)

/-- Holds when two modules are called the same. -/
def ModuleName.same : ModuleName → ModuleName → Bool
  | .value a, .value b => a == b
  | .class a, .class b => a == b
  | _, _ => false

/-- A class. `serial` tells it from every other one, and `home` is what the module was called in
which it was written, if that is the module at hand. -/
structure ClassValue where
  serial : Nat
  name : String
  home : Option ModuleName := none
  role : Option Role
  up : Option (List SchemaStep) := none
  down : Option (List SchemaStep) := none
  run : Option Routine := none
  refusal : Option Fault := none

/-- What a name is bound to. -/
inductive Binding where
  | class (definition : ClassValue)
  | value (value : Value)

/-- The names that a module has bound so far. -/
abbrev Bindings := List (String × Binding)

namespace ClassValue

/-- The base class of a role. -/
def root (role : Role) : ClassValue where
  serial := match role with
    | .migration => 0
    | .seeder => 1
  name := role.name
  role := some role

/-- The class that every class without a base of its own has. -/
def topmost : ClassValue := { serial := 2, name := "object", role := none }

/-- The methods that a class still lacks. -/
def missing (c : ClassValue) : List String :=
  match c.role with
  | none => []
  | some role => role.methods.filter fun method =>
    match method with
    | "up" => c.up.isNone
    | "down" => c.down.isNone
    | _ => c.run.isNone

/-- The fault of making an instance of a class, if there is one: a method is missing, or the
constructor refuses. -/
def instanceFault? (c : ClassValue) : Option Fault :=
  match c.missing with
  | [] => c.refusal
  | methods => some (.misuse (.unsuitable
      ("Can't instantiate abstract class " ++ c.name ++ " with abstract method"
        ++ (if methods.length = 1 then "" else "s") ++ " " ++ ", ".intercalate methods)))

/-- A class on top of another one: it has the methods of its base unless it has its own. -/
def extend (base : ClassValue) (serial : Nat) (home : ModuleName) (text : ClassText) :
    ClassValue where
  serial
  name := normalForm text.name
  home := some home
  role := base.role
  up := text.up.or base.up
  down := text.down.or base.down
  run := text.run.or base.run
  refusal := text.refusal.or base.refusal

/-- A complete class from elsewhere. Its constructor is that of its base. -/
def complete (base : ClassValue) (serial : Nat) (name : String) : ClassValue :=
  { base with serial, name, home := none, up := some [], down := some [],
              run := some (.steps []) }

end ClassValue

namespace Bindings

/-- The name under which a module finds what it is called. -/
def ownName : String := "__name__"

/-- The names that every module has from the start. -/
def initial (called : String) : Bindings :=
  [(ownName, .value (.text called)), ("Migration", .class (.root .migration)),
    ("Seeder", .class (.root .seeder))]

/-- The names that are known everywhere, apart from the topmost class. -/
def standing : List String :=
  ["bool", "bytes", "dict", "float", "frozenset", "int", "len", "list", "print", "range", "repr",
    "set", "sorted", "str", "tuple", "type"] ++ GeneralKind.ordinary ++ GeneralKind.escaping

/-- What a name stands for. -/
def lookUp (bindings : Bindings) (name : String) : Except Fault Binding :=
  match Entries.get? name bindings with
  | some binding => .ok binding
  | none =>
    if name = "object" then .ok (.class .topmost)
    else if standing.contains name then .ok (.class { ClassValue.topmost with name })
    else .error (.misuse (.unboundName name))

/-- The complaints about standing names that no class can be put on top of. -/
def sealed (name : String) : Option String :=
  if ["bool", "range"].contains name then
    some ("type '" ++ name ++ "' is not an acceptable base type")
  else if ["len", "print", "repr", "sorted"].contains name then
    some "cannot create 'builtin_function_or_method' instances"
  else none

/-- The class that a name stands for, for another one on top of it. A value among the bases is taken
for the making of another value of its kind. -/
def classOf (bindings : Bindings) (name : String) : Except Fault ClassValue := do
  match ← bindings.lookUp name with
  | .class definition =>
    if definition.role.isSome || definition.home.isSome then return definition
    else match sealed definition.name with
      | some complaint => .error (.misuse (.unsuitable complaint))
      | none => return definition
  | .value _ =>
    .error (.misuse (.unsuitable "str() argument 'encoding' must be str, not tuple"))

/-- What the module is called. -/
def called (bindings : Bindings) : ModuleName :=
  match Entries.get? ownName bindings with
  | some (.class definition) => .class definition.serial
  | some (.value value) => .value value
  | none => .value .null

/-- Binds the classes of a module; each gets the next serial number. -/
def addClasses (bindings : Bindings) (serial : Nat) : List ClassText → Except Fault (Bindings × Nat)
  | [] => .ok (bindings, serial)
  | text :: rest => do
    let base ← bindings.classOf (normalForm text.base)
    let definition := base.extend serial bindings.called text
    addClasses (Entries.put definition.name (.class definition) bindings) (serial + 1) rest

/-- Binds classes from elsewhere. -/
def addForeign (bindings : Bindings) (serial : Nat) :
    List (String × String) → Except Fault Bindings
  | [] => .ok bindings
  | (name, base) :: rest => do
    let base ← bindings.classOf (normalForm base)
    addForeign (Entries.put (normalForm name) (.class (base.complete serial name)) bindings)
      (serial + 1) rest

/-- Binds further names. -/
def addAliases (bindings : Bindings) : List (String × String) → Except Fault Bindings
  | [] => .ok bindings
  | (name, source) :: rest => do
    let binding ← bindings.lookUp (normalForm source)
    addAliases (Entries.put (normalForm name) binding bindings) rest

/-- The names that a module binds. -/
def ofModule (called : String) (text : ModuleText) : Except Fault Bindings := do
  let (bindings, serial) ← addClasses (initial called) 3 text.classes
  let bindings ← bindings.addForeign serial text.foreign
  let bindings : Bindings := text.values.foldl (fun bound entry =>
    Entries.put (normalForm entry.1) (.value entry.2) bound) bindings
  let bindings ← bindings.addAliases text.aliases
  match text.failure with
  | some fault => .error fault
  | none => return bindings

/-- The classes that bindings hold for a role and that were written in a module called as this one
is in the end, once for each name that they are bound to. -/
def candidates (bindings : Bindings) (role : Role) : List ClassValue :=
  bindings.filterMap fun entry =>
    match entry.2 with
    | .class definition =>
      let isOwn := (definition.home.map bindings.called.same).getD false
      if isOwn && definition.role == some role then some definition else none
    | .value _ => none

end Bindings

/-- The one usable name that no class can have. -/
def unassignable : String := "__debug__"

/-- What the module in a file is called. -/
def moduleName (path : Path) : String := "fluentdb_loaded_" ++ path.stem

/-- The names that the source file at a path binds. -/
def File.bindings (path : Path) : File → Except Fault Bindings
  | .module text => Bindings.ofModule (moduleName path) text
  | .template name =>
    if normalForm name = unassignable then
      .error (.raised "SyntaxError" (.text
        ("cannot assign to " ++ unassignable ++ " (" ++ path.name ++ ", line 7)")))
    else Bindings.ofModule (moduleName path) (templateModule name)

/-- Loads the file that a path leads to. Only names with the plain ending can be loaded. A fault
that no handler sees goes through as it is. -/
def load (tree : Tree File) (path : Path) : Except Fault Bindings :=
  if !".py".toList.isSuffixOf path.name.toList then
    refuse (.aboutMigration ("Cannot import " ++ path.name) path.name)
  else
    let result := match tree.find? path with
      | some (.file file) => file.bindings path
      | some .folder => .error (.misuse (.isADirectory path.text))
      | none => .error (.misuse (.noSuchFile path.text))
    match result with
    | .ok bindings => .ok bindings
    | .error fault =>
      if fault.escapes then .error fault
      else
      let report := Report.aboutMigration
        ("Failed to import " ++ path.name ++ ": " ++ fault.text) path.name
      refuse { report with cause := some (.words fault.text) }

/-- The single class of a role that the file at a path defines. -/
def loadClass (tree : Tree File) (path : Path) (role : Role) : Except Fault ClassValue := do
  match (← load tree path).candidates role with
  | [definition] => return definition
  | found => refuse (.aboutMigration
      (path.name ++ " must define exactly one " ++ role.name ++ " subclass, found "
        ++ Text.decimal found.length) path.name)

end DataLayer.Source
