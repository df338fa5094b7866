import DataLayer.Fault.Basic
import DataLayer.Value.Name

/-! Queries under construction.

A query belongs to one table and collects a select list, joins, predicates, an order and a part of
the result. Its clauses change it one at a time; a clause that is refused may have been taken in
already in part. -/

namespace DataLayer

open DataLayer.Text

/-- A condition that rows have to meet, with the values of its own placeholders. -/
structure Predicate where
  fragment : Value
  params : List Value := []

/-- A query under construction. -/
structure Query where
  table : Value
  selection : Value := .text "*"
  joins : List String := []
  predicates : List Predicate := []
  order : Option String := none
  limit : Option Nat := none
  offset : Option Nat := none

/-- The changes that can be made to a query. -/
inductive Clause where
  | select (columns : Value)
  | join (kind table condition : Value)
  /-- A condition that is taken as it is. -/
  | fragment (sql : Value)
  /-- A column compared with a value. -/
  | compare (column operator value : Value)
  /-- A condition of any form with the values of its placeholders. -/
  | raw (sql params : Value)
  | orderBy (column direction : Value)
  | limit (count : Value)
  | offset (count : Value)
  | reset

namespace Query

/-- Starts a query on a table. -/
def start (table : Value) : Except Fault Query := do
  if ← (table.isBlankName).mapError Fault.misuse then
    refuse (.of .malformedQuery "A query needs a table name")
  else return { table }

/-- The values of all placeholders in order. -/
def params (q : Query) : List Value := q.predicates.flatMap Predicate.params

/-- A query in one line: its table and how many conditions and values it has. -/
def summary (q : Query) : String :=
  "QueryBuilder(table=" ++ q.table.quoted ++ ", wheres=" ++ decimal q.predicates.length
    ++ ", params=" ++ decimal q.params.length ++ ")"

/-- The report that something about the query is malformed. -/
def malformed (q : Query) (message : String) : Report :=
  .aboutTable .malformedQuery message q.table

/-- The query with its table only. -/
def cleared (q : Query) : Query := { table := q.table }

/-- The select list that a value stands for: a text as it is, or names joined by commas. -/
def selectionOf (columns : Value) : Except Misuse Value :=
  match columns.text?, columns.elements? with
  | some _, _ => .ok columns
  | none, some items => (Value.joinTexts ", " items).map Value.text
  | none, none => .error (.unsuitable "can only join an iterable")

/-- Holds of a select list that is blank. -/
def isBlankSelection (selection : Value) : Bool :=
  match selection.text? with
  | some word => isBlankText word
  | none => false

/-- The number of rows that a clause gives. -/
def countOf? : Value → Option Nat
  | .int (.ofNat n) => some n
  | _ => none

private def countReport (q : Query) (clause : String) (count : Value) : Report :=
  q.malformed (clause ++ " must be a non-negative integer, got " ++ count.quoted)

/-- Adds a predicate. -/
def withPredicate (q : Query) (fragment : Value) (params : List Value) : Query :=
  { q with predicates := q.predicates ++ [{ fragment, params }] }

/-- Replaces the select list. -/
def select (q : Query) (columns : Value) : Except Fault Unit × Query :=
  match selectionOf columns with
  | .error misuse => (.error (.misuse misuse), q)
  | .ok selection =>
    let q := { q with selection }
    if isBlankSelection selection then
      (refuse (q.malformed "Select list cannot be empty"), q)
    else (.ok (), q)

/-- Adds a join. -/
def join (q : Query) (kind table condition : Value) : Except Fault Unit × Query :=
  match kind.upperCase with
  | .error misuse => (.error (.misuse misuse), q)
  | .ok kind =>
    let text := kind.display ++ " JOIN " ++ table.display ++ " ON " ++ condition.display
    (.ok (), { q with joins := q.joins ++ [text] })

/-- Adds a comparison of a column with a value. -/
def compare (q : Query) (column operator value : Value) : Query :=
  q.withPredicate (.text (column.display ++ " " ++ operator.display ++ " ?")) [value]

/-- Adds a condition of any form. A text is no row of values; a value that yields nothing is
noticed only after the condition was taken in. -/
def raw (q : Query) (sql params : Value) : Except Fault Unit × Query :=
  let isText := match params with
    | .bytes _ => true
    | other => other.text?.isSome
  if isText then
    (refuse (q.malformed "where_raw() params must be a sequence of values, not a string"), q)
  else match params.elements with
    | .ok values => (.ok (), q.withPredicate sql values)
    | .error misuse => (.error (.misuse misuse), q.withPredicate sql [])

/-- The two directions of an order. -/
def directions : List String := ["ASC", "DESC"]

/-- Replaces the order. -/
def orderBy (q : Query) (column direction : Value) : Except Fault Unit × Query :=
  match direction.upperCase with
  | .error misuse => (.error (.misuse misuse), q)
  | .ok direction =>
    match direction with
    | .text word =>
      if directions.contains word then
        (.ok (), { q with order := some ("ORDER BY " ++ column.display ++ " " ++ word) })
      else (refuse (badDirection direction), q)
    | other => (refuse (badDirection other), q)
where
  badDirection (direction : Value) : Report :=
    q.malformed ("Sort direction must be ASC or DESC, got " ++ direction.quoted)

/-- Makes one change to a query. -/
def apply (q : Query) : Clause → Except Fault Unit × Query
  | .select columns => q.select columns
  | .join kind table condition => q.join kind table condition
  | .fragment sql => (.ok (), q.withPredicate sql [])
  | .compare column operator value => (.ok (), q.compare column operator value)
  | .raw sql params => q.raw sql params
  | .orderBy column direction => q.orderBy column direction
  | .limit count =>
    match countOf? count with
    | some n => (.ok (), { q with limit := some n })
    | none => (refuse (countReport q "LIMIT" count), q)
  | .offset count =>
    match countOf? count with
    | some n => (.ok (), { q with offset := some n })
    | none => (refuse (countReport q "OFFSET" count), q)
  | .reset => (.ok (), q.cleared)

end Query
end DataLayer
