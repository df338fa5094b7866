import DataLayer.Migration.FileName
import DataLayer.Source.Basic

/-! The text that a new migration starts with, and what it does as it stands. -/

namespace DataLayer.Source

open DataLayer.Script

/-- The text of a new migration. -/
def templateText (name : String) : String :=
  let table := Migration.tableNameFor name
  "\n".intercalate [
    "\"\"\"" ++ name ++ " migration.\"\"\"",
    "",
    "from fluentdb.migrations import Migration",
    "from fluentdb.schema import Blueprint, Schema",
    "",
    "",
    "class " ++ name ++ "(Migration):",
    "    def up(self, schema: Schema) -> None:",
    "        def columns(table: Blueprint) -> None:",
    "            table.id()",
    "",
    "            # table.string(\"name\")",
    "",
    "            table.boolean(\"active\").default(1)",
    "            table.timestamps()  # created_at, created_by, updated_at, updated_by",
    "            table.soft_delete()  # deleted_at, deleted_by",
    "",
    "        schema.create(\"" ++ table ++ "\", columns)",
    "",
    "    def down(self, schema: Schema) -> None:",
    "        schema.drop_if_exists(\"" ++ table ++ "\")",
    ""]

/-- A step on a blueprint, by name and arguments. -/
def blueprintCall (name : String) (args : List Value) (after : List Call := []) : BlueprintStep :=
  { call := { name, args }, after }

/-- The step that drops a table if there is one. -/
def dropStep (table : String) : SchemaStep :=
  .call { name := "drop_if_exists", args := [.text table] }

/-- The module that the text of a new migration makes: a table with a counting key, a mark for
active rows, and the columns that tell of changes and deletions. -/
def templateModule (name : String) : ModuleText :=
  let table := Migration.tableNameFor name
  { classes := [{
      name
      up := some [.create (.text table) [
        blueprintCall "id" [],
        blueprintCall "boolean" [.text "active"] [{ name := "default", args := [.int 1] }],
        blueprintCall "timestamps" [],
        blueprintCall "soft_delete" []]]
      down := some [dropStep table] }] }

end DataLayer.Source
