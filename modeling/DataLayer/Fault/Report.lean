import DataLayer.Entries
import DataLayer.Fault.Misuse
import DataLayer.Value.Same

/-! Reports: the failures that this library detects itself or makes of what an engine says.

A report has a kind, a category, a message that may be shown, and a context that says which table,
statement or file it is about. -/

namespace DataLayer

/-- The broad classes that reports are sorted into. -/
inductive Category where
  | database | validation | config | migration | internal
deriving DecidableEq, Repr

/-- The name of a category. -/
def Category.name : Category → String
  | .database => "DATABASE"
  | .validation => "VALIDATION"
  | .config => "CONFIG"
  | .migration => "MIGRATION"
  | .internal => "INTERNAL"

/-- Every category. -/
def Category.all : List Category := [.database, .validation, .config, .migration, .internal]

/-- The category of a name. -/
def Category.ofName? (name : String) : Option Category := all.find? fun c => c.name == name

/-- The kinds of reports. -/
inductive ReportKind where
  | general | config | database | connection | query | integrity | validation
  | malformedQuery | schema | migration
deriving DecidableEq, Repr

namespace ReportKind

/-- The name of a kind. -/
def name : ReportKind → String
  | .general => "FluentDBError"
  | .config => "ConfigError"
  | .database => "DatabaseError"
  | .connection => "DatabaseConnectionError"
  | .query => "QueryError"
  | .integrity => "IntegrityError"
  | .validation => "ValidationError"
  | .malformedQuery => "MalformedQueryError"
  | .schema => "SchemaError"
  | .migration => "MigrationError"

/-- Every kind. -/
def all : List ReportKind :=
  [.general, .config, .database, .connection, .query, .integrity, .validation, .malformedQuery,
    .schema, .migration]

/-- The kind of a name. -/
def ofName? (name : String) : Option ReportKind := all.find? fun kind => kind.name == name

/-- The kind that a kind is a special case of. -/
def parent? : ReportKind → Option ReportKind
  | .general => none
  | .config => some .general
  | .database => some .general
  | .connection => some .database
  | .query => some .database
  | .integrity => some .query
  | .validation => some .general
  | .malformedQuery => some .validation
  | .schema => some .validation
  | .migration => some .general

/-- A kind and the kinds that it is a special case of, up to the most general one. -/
def lineage (kind : ReportKind) : List ReportKind :=
  kind :: match kind.parent? with
    | none => []
    | some parent => parent :: match parent.parent? with
      | none => []
      | some grandparent => grandparent :: grandparent.parent?.toList

/-- The category of a kind, unless a report says otherwise. -/
def category : ReportKind → Category
  | .general => .internal
  | .config => .config
  | .database => .database
  | .connection => .database
  | .query => .database
  | .integrity => .database
  | .validation => .validation
  | .malformedQuery => .validation
  | .schema => .validation
  | .migration => .migration

/-- Holds of the kinds that carry the words of an engine. -/
def carriesEngineMessage : ReportKind → Bool
  | .query => true
  | .integrity => true
  | _ => false

end ReportKind

/-- What a report is about. `hidden` are the names given to it that are its own and so are not
passed on; `stripped` holds when its metadata were taken away as a whole. -/
structure Context where
  table : Value := .null
  sql : Value := .null
  migration : Value := .null
  metadata : Value := .map []
  hidden : List String := []
  stripped : Bool := false

namespace Context

/-- The name under which a context is asked for its entries. -/
def entriesName : String := "to_dict"

/-- The names that belong to a context itself. -/
def ownNames : List String :=
  [entriesName, "__annotations__", "__class__", "__dataclass_fields__", "__dataclass_params__",
    "__delattr__", "__dict__", "__dir__", "__doc__", "__eq__", "__format__", "__ge__",
    "__getattribute__", "__getstate__", "__gt__", "__hash__", "__init__", "__init_subclass__",
    "__le__", "__lt__", "__match_args__", "__module__", "__ne__", "__new__", "__reduce__",
    "__reduce_ex__", "__repr__", "__setattr__", "__sizeof__", "__str__", "__subclasshook__",
    "__weakref__"]

/-- Two items that make an entry. -/
private def pairOf (position : Nat) (value : Value) : Except Misuse (Value × Value) :=
  match value.elements? with
  | none => .error (.unsuitable ("cannot convert dictionary update sequence element #"
      ++ Text.decimal position ++ " to a sequence"))
  | some [first, second] => .ok (first, second)
  | some items => .error (.unreadable ("dictionary update sequence element #"
      ++ Text.decimal position ++ " has length " ++ Text.decimal items.length
      ++ "; 2 is required"))

private def pairsFrom (position : Nat) : List Value → Except Misuse (List (Value × Value))
  | [] => .ok []
  | item :: rest => do
    let pair ← pairOf position item
    let pairs ← pairsFrom (position + 1) rest
    .ok (pair :: pairs)

/-- The entries that a value of metadata stands for. -/
def metadataEntries : Value → Except Misuse (List (Value × Value))
  | .map entries => .ok entries
  | value => value.elements.bind (pairsFrom 0)

/-- A field as an entry, unless it is null. -/
def field (name : String) (value : Value) : List (Value × Value) :=
  match value with
  | .null => []
  | value => [(.text name, value)]

/-- The entries of a context: table, statement and file as far as they are known, then the
metadata. -/
def entries (c : Context) : Except Misuse (List (Value × Value)) :=
  if c.hidden.contains entriesName then .error (.unsuitable "object is not callable")
  else
    let fields := field "table" c.table ++ field "sql" c.sql ++ field "migration" c.migration
    if c.stripped then .error (.noSuchMember "ErrorContext" "metadata")
    else if c.metadata.isTruthy then (metadataEntries c.metadata).map (Entries.putAll fields)
    else .ok fields

/-- Adds one entry to the metadata. -/
def addMetadata (name : String) (value : Value) (c : Context) : Except Misuse Context :=
  if c.stripped then .error (.noSuchMember "ErrorContext" "metadata") else
  match c.metadata with
  | .map entries => .ok { c with metadata := .map (Entries.put (.text name) value entries) }
  | .list _ => .error (.unsuitable "list indices must be integers or slices, not str")
  | other => .error (.unsuitable
      ("'" ++ other.kindName ++ "' object does not support item assignment"))

/-- Replaces the whole content of a context. -/
def replace (value : Value) (c : Context) : Except Misuse Context :=
  match value with
  | .map entries =>
    let entry (name : String) : Value := (Entries.get? (.text name) entries).getD .null
    .ok { c with
      table := entry "table", sql := entry "sql", migration := entry "migration",
      metadata := entry "metadata", hidden := [],
      stripped := !Entries.contains (.text "metadata") entries }
  | other => .error (.unsuitable ("__dict__ must be set to a dictionary, not a '"
      ++ other.kindName ++ "'"))

/-- Adds one named value: to the field of that name, or to the metadata. -/
def set (name : String) (value : Value) (c : Context) : Except Misuse Context :=
  if name = "table" then .ok { c with table := value }
  else if name = "sql" then .ok { c with sql := value }
  else if name = "migration" then .ok { c with migration := value }
  else if name = "__class__" then
    .error (.unsuitable ("__class__ must be set to a class, not '" ++ value.kindName
      ++ "' object"))
  else if name = "__dict__" then c.replace value
  else if name = "__weakref__" then .error (.noSuchMember "ErrorContext" name)
  else if ownNames.contains name then .ok { c with hidden := c.hidden ++ [name] }
  else c.addMetadata name value

end Context

/-- What made a report necessary. -/
inductive Cause where
  | words (text : String)
  | unknownZone
  | unreadableZone
deriving DecidableEq, Repr

/-- A report. -/
structure Report where
  kind : ReportKind
  message : Value
  category : Category := kind.category
  context : Context := {}
  cause : Option Cause := none
  engineMessage : Value := message

namespace Report

/-- A report of a kind with a message and nothing else. -/
def of (kind : ReportKind) (message : String) : Report := { kind, message := .text message }

/-- A report about a table. -/
def aboutTable (kind : ReportKind) (message : String) (table : Value) : Report :=
  { kind, message := .text message, context := { table } }

/-- A report about a migration file. -/
def aboutMigration (message file : String) : Report :=
  { kind := .migration, message := .text message, context := { migration := .text file } }

/-- What is shown in place of the words of an engine. -/
def genericMessage : String := "Database query failed"

/-- The message of a report that may be shown; the words of an engine only when `expose` is
set. -/
def publicMessage (expose : Bool) (r : Report) : Value :=
  if r.kind.carriesEngineMessage then
    if expose then r.engineMessage else .text genericMessage
  else r.message

/-- A report as one line for a developer. -/
def quoted (r : Report) : String :=
  r.kind.name ++ "(" ++ r.message.quoted ++ ", category=" ++ r.category.name ++ ")"

end Report
end DataLayer
