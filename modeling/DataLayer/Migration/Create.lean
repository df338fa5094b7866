import DataLayer.Calendar.Basic
import DataLayer.Source.Load

/-! Making new migration files. A file is named by the moment at which it is made and by its
class, and no file is ever written over. -/

namespace DataLayer.Migration

open DataLayer.Source

/-- The path that a value names. -/
def pathOf (value : Value) : Except Misuse Path :=
  match value.text? with
  | some _ => .ok (Path.ofText value.display)
  | none => .error (.noPath value)

/-- The name that a migration is to have. -/
def usableName (name : Value) : Except Fault String :=
  match name.text? with
  | none => .error (.misuse (.noSuchMember name.kindName "isidentifier"))
  | some word =>
    if isUsableName word then .ok word
    else refuse (.of .migration
      ("Migration name must be a Python identifier, got " ++ name.quoted))

/-- Writes the file of a new migration into a folder that is there already. -/
def writeFile (tree : Tree File) (folder : Path) (name : String) (now : Moment) :
    Except Fault Path × Tree File :=
  let file := fileName now.stamp name
  let path := folder.child file
  match tree.look path with
  | .error misuse => (.error (.misuse misuse), tree)
  | .ok (some _) => (refuse (.aboutMigration (file ++ " already exists") file), tree)
  | .ok none =>
    match tree.locate path with
    | none => (.error (.misuse (.noSuchFile path.text)), tree)
    | some place => (.ok path, tree.put place (.file (.template name)))

/-- Makes a new migration. The name is looked at before anything is made; the folder is made when
it is missing. -/
def create (tree : Tree File) (name folder : Value) (now : Moment) :
    Except Fault Path × Tree File :=
  match usableName name with
  | .error fault => (.error fault, tree)
  | .ok word =>
    match pathOf folder with
    | .error misuse => (.error (.misuse misuse), tree)
    | .ok path =>
      match tree.makeFolder path with
      | .error misuse => (.error (.misuse misuse), tree)
      | .ok tree => writeFile tree path word now

end DataLayer.Migration
