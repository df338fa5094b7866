import DataLayer.Source.Template

/-! The migrations and the seeder that come with the library: users, and the roles and permissions
that they can have. -/

namespace DataLayer.Source.Bundled

open DataLayer.Script

private def string (name : String) (length : Nat) (after : List Call := []) : BlueprintStep :=
  blueprintCall "string" [.text name, .int length] after

private def unique : Call := { name := "unique" }

/-- The users table. -/
def users : ModuleText :=
  { classes := [{
      name := "CreateUsersTable"
      up := some [.create (.text "users") [
        blueprintCall "id" [],
        string "first_name" 100,
        string "last_name" 100,
        string "email" 150 [unique],
        blueprintCall "string" [.text "password"],
        blueprintCall "boolean" [.text "active"] [{ name := "default", args := [.int 1] }],
        blueprintCall "timestamps" [],
        blueprintCall "soft_delete" []]]
      down := some [dropStep "users"] }] }

/-- The columns of a table of named things. -/
private def named : List BlueprintStep := [
  blueprintCall "id" [],
  string "name" 50 [unique],
  blueprintCall "string" [.text "description"] [{ name := "nullable" }]]

/-- The columns of a table that links two others. -/
private def link (first second : String) : List BlueprintStep := [
  blueprintCall "id" [],
  blueprintCall "integer" [.text first],
  blueprintCall "integer" [.text second]]

/-- Roles, permissions and the tables that link them. -/
def roles : ModuleText :=
  { classes := [{
      name := "CreateRbacTables"
      up := some [
        .create (.text "roles") named,
        .create (.text "permissions") named,
        .create (.text "user_roles") (link "user_id" "role_id"),
        .create (.text "role_permissions") (link "role_id" "permission_id")]
      down := some (["role_permissions", "user_roles", "permissions", "roles"].map dropStep) }] }

/-- The roles that are there from the start. -/
def baselineRoles : Baseline where
  table := "roles"
  key := "name"
  rows := [
    [("name", .text "admin"), ("description", .text "Super Administrator")],
    [("name", .text "editor"), ("description", .text "Content Editor")]]

/-- The seeder of the roles. -/
def roleSeeder : ModuleText :=
  { classes := [{
      name := "RoleSeeder"
      base := "Seeder"
      run := some (.baseline baselineRoles) }] }

/-- A file that comes with the library, by its path. -/
def file? : String → Option File
  | "migrations/2025_12_10_163919_CreateUsersTable.py" => some (.module users)
  | "migrations/2025_12_11_134932_CreateRbacTables.py" => some (.module roles)
  | "seeds/RoleSeeder.py" => some (.module roleSeeder)
  | _ => none

end DataLayer.Source.Bundled
