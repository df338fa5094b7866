import DataLayer.Dialect
import DataLayer.Query.Basic

/-! The statements that queries become. Values never enter the text of a statement; they travel
beside it, in the order of its placeholders. -/

namespace DataLayer

open DataLayer.Text

/-- The ways in which a query ends. -/
inductive Query.Terminal where
  | get
  | first
  | exists
  | insert (row : Value)
  | update (row : Value)
  | delete

/-- A statement with the values of its placeholders. `unscoped` names a change that touches every
row of the table. -/
structure Prepared where
  sql : String
  params : List Value
  unscoped : Option String := none

namespace Query

/-- The condition of a statement. -/
def whereClause (q : Query) : Except Misuse String := do
  let conditions ← Value.joinTexts " AND " (q.predicates.map Predicate.fragment)
  return "WHERE " ++ conditions

/-- The condition of a statement, if the query has any predicate. -/
def whereParts (q : Query) : Except Misuse (List String) :=
  if q.predicates.isEmpty then .ok [] else (q.whereClause).map fun text => [text]

/-- A keyword with a number after it, if there is one. -/
def countPart (keyword : String) (count : Option Nat) : List String :=
  match count with
  | some n => [keyword ++ " " ++ decimal n]
  | none => []

/-- The select statement of a query with a given select list and limit. -/
def selectWith (q : Query) (selection : String) (limit : Option Nat) : Except Misuse String := do
  let conditions ← q.whereParts
  return " ".intercalate
    (("SELECT " ++ selection ++ " FROM " ++ q.table.display) :: q.joins ++ conditions
      ++ q.order.toList ++ countPart "LIMIT" limit ++ countPart "OFFSET" q.offset)

/-- The select statement of a query. -/
def selectStatement (q : Query) : Except Misuse String :=
  q.selectWith q.selection.display q.limit

/-- The select statement of a query with its values. -/
def toSql (q : Query) : Except Misuse (String × List Value) := do
  return (← q.selectStatement, q.params)

/-- The select list that counts rows. -/
def countSelection : String := "COUNT(*) AS count"

private def valuesOf (row : Value) (member : String) :
    Except Misuse (List (Value × Value)) :=
  match row with
  | .map entries => .ok entries
  | other => .error (.noSuchMember other.kindName member)

/-- The statement that inserts a row. -/
def insertStatement (q : Query) (row : Value) : Except Fault Prepared := do
  if !row.isTruthy then refuse (q.malformed "Cannot insert an empty row")
  else
    let entries ← Misuse.lift (valuesOf row "keys")
    let columns ← Misuse.lift (Value.joinTexts ", " (entries.map Prod.fst))
    return { sql := "INSERT INTO " ++ q.table.display ++ " (" ++ columns ++ ") VALUES ("
               ++ Dialect.placeholders entries.length ++ ")",
             params := entries.map Prod.snd }

/-- A change of rows: scoped by the predicates, or marked as touching every row. -/
def restricted (q : Query) (operation sql : String) (values : List Value) :
    Except Fault Prepared := do
  if q.predicates.isEmpty then return { sql, params := values, unscoped := some operation }
  else
    let condition ← Misuse.lift q.whereClause
    return { sql := sql ++ " " ++ condition, params := values ++ q.params }

/-- The statement that updates rows. -/
def updateStatement (q : Query) (row : Value) : Except Fault Prepared := do
  if !row.isTruthy then refuse (q.malformed "Cannot update with an empty row")
  else
    let columns ← Misuse.lift row.elements
    let entries ← Misuse.lift (valuesOf row "values")
    let assignments := ", ".intercalate (columns.map fun column => column.display ++ " = ?")
    q.restricted "update" ("UPDATE " ++ q.table.display ++ " SET " ++ assignments)
      (entries.map Prod.snd)

/-- The statement that a query becomes when it ends in a given way. -/
def prepare (q : Query) : Terminal → Except Fault Prepared
  | .get => do return { sql := ← Misuse.lift q.selectStatement, params := q.params }
  | .first => do
    return { sql := ← Misuse.lift (q.selectWith q.selection.display (some 1)), params := q.params }
  | .exists => do
    return { sql := ← Misuse.lift (q.selectWith countSelection (some 1)), params := q.params }
  | .insert row => q.insertStatement row
  | .update row => q.updateStatement row
  | .delete => q.restricted "delete" ("DELETE FROM " ++ q.table.display) []

end Query
end DataLayer
