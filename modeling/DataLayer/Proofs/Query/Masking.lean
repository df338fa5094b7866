import DataLayer.Proofs.Query.Terminal
import DataLayer.Proofs.Session.Couple

/-! Queries without the values that are bound in them. Building a query and compiling it never look
at a bound value: with the values masked from the start, everything comes out as it does otherwise,
with the values masked. -/

namespace DataLayer

/-- A row of values to be written, without the values. -/
def Value.maskedRow : Value → Value
  | .map entries => .map (entries.map fun entry => (entry.1, .null))
  | other => other

/-- The values of a condition, without the values; only their number is left. Of a map the keys count. -/
def Value.maskedParams : Value → Value
  | .list items => .list (masks items)
  | .tuple items => .tuple (masks items)
  | .map entries => .map (entries.map fun entry => (.null, entry.2))
  | other => other

def Predicate.masked (p : Predicate) : Predicate where
  fragment := p.fragment
  params := masks p.params

/-- A clause without the values that it binds. -/
def Clause.masked : Clause → Clause
  | .compare column operator _ => .compare column operator .null
  | .raw sql params => .raw sql params.maskedParams
  | other => other

/-- A way to end a query, without the values of its row. -/
def Query.Terminal.masked : Query.Terminal → Query.Terminal
  | .insert row => .insert row.maskedRow
  | .update row => .update row.maskedRow
  | other => other

def Prepared.masked (p : Prepared) : Prepared where
  sql := p.sql
  params := masks p.params
  unscoped := p.unscoped

theorem masks_append (values others : List Value) : masks (values ++ others) = masks values ++ masks others :=
  List.map_append

namespace Query

/-- A query without the values of its predicates. -/
def masked (q : Query) : Query := { q with predicates := q.predicates.map Predicate.masked }

theorem params_masked (q : Query) : q.masked.params = masks q.params := by
  simp only [params, masked, masks, List.flatMap_map, List.map_flatMap]
  rfl

theorem withPredicate_masked (q : Query) (fragment : Value) (values : List Value) :
    q.masked.withPredicate fragment (masks values) = (q.withPredicate fragment values).masked := by
  simp only [masked, withPredicate, List.map_append]
  rfl

theorem raw_masked (q : Query) (sql params : Value) :
    q.masked.raw sql params.maskedParams = ((q.raw sql params).1, (q.raw sql params).2.masked) := by
  have taken (values : List Value) := withPredicate_masked q sql values
  cases params with
  | list items => exact Prod.ext rfl (taken items)
  | tuple items => exact Prod.ext rfl (taken items)
  | map entries =>
    have keys : (entries.map fun entry => (Value.null, entry.2)).map Prod.fst = masks (entries.map Prod.fst) := by
      simp only [masks, List.map_map]
      rfl
    have own := taken (entries.map Prod.fst)
    rw [← keys] at own
    exact Prod.ext rfl own
  | text word => rfl
  | bytes row => rfl
  | columnType kind => rfl
  | engineKind kind => rfl
  | _ => exact Prod.ext rfl (taken [])

/-- What a clause comes to, and what it adds besides values, does not depend on the values it binds. -/
theorem apply_masked (q : Query) (clause : Clause) :
    q.masked.apply clause.masked = ((q.apply clause).1, (q.apply clause).2.masked) := by
  cases clause with
  | select columns =>
    simp only [Clause.masked, apply, select]
    split
    · rfl
    · split <;> rfl
  | join kind table condition =>
    simp only [Clause.masked, apply, join]
    split <;> rfl
  | fragment sql => exact Prod.ext rfl (withPredicate_masked q sql [])
  | compare column operator value => exact Prod.ext rfl (withPredicate_masked q _ [value])
  | raw sql params => exact raw_masked q sql params
  | orderBy column direction =>
    simp only [Clause.masked, apply, orderBy]
    split
    · rfl
    · split
      · split <;> rfl
      · rfl
  | limit count =>
    simp only [Clause.masked, apply]
    split <;> rfl
  | offset count =>
    simp only [Clause.masked, apply]
    split <;> rfl
  | reset => rfl

theorem whereClause_masked (q : Query) : q.masked.whereClause = q.whereClause := by
  simp only [whereClause, masked, List.map_map]
  rfl

theorem whereParts_masked (q : Query) : q.masked.whereParts = q.whereParts := by
  rw [whereParts, whereParts, whereClause_masked]
  simp only [masked, List.isEmpty_map]

theorem selectWith_masked (q : Query) (selection : String) (limit : Option Nat) :
    q.masked.selectWith selection limit = q.selectWith selection limit := by
  rw [selectWith, selectWith, whereParts_masked]
  rfl

theorem restricted_masked (q : Query) (operation sql : String) (values : List Value) :
    q.masked.restricted operation sql (masks values) = (q.restricted operation sql values).map Prepared.masked := by
  rw [restricted, restricted, whereClause_masked, params_masked, ← masks_append]
  simp only [masked, List.isEmpty_map]
  split
  · rfl
  · cases q.whereClause <;> rfl

theorem insertStatement_masked (q : Query) (row : Value) :
    q.masked.insertStatement row.maskedRow = (q.insertStatement row).map Prepared.masked := by
  cases row with
  | map entries =>
    rw [Value.maskedRow, insertStatement_map, insertStatement_map]
    simp only [List.isEmpty_map, List.map_map, List.length_map]
    split
    · rfl
    · change (Misuse.lift (Value.joinTexts ", " (entries.map Prod.fst))).map _ = _
      cases Value.joinTexts ", " (entries.map Prod.fst) with
      | error misuse => rfl
      | ok columns =>
        have lifted : Misuse.lift (.ok columns) = .ok columns := rfl
        simp only [lifted, Except.map, Prepared.masked, masks, List.map_map]
        rfl
  | _ =>
    dsimp only [Value.maskedRow]
    unfold insertStatement
    split <;> rfl

theorem updateStatement_masked (q : Query) (row : Value) :
    q.masked.updateStatement row.maskedRow = (q.updateStatement row).map Prepared.masked := by
  cases row with
  | map entries =>
    have values : (entries.map fun entry => (entry.1, Value.null)).map Prod.snd = masks (entries.map Prod.snd) := by
      simp only [masks, List.map_map]
      rfl
    rw [Value.maskedRow, updateStatement_map, updateStatement_map, values]
    simp only [List.isEmpty_map, List.map_map]
    split
    · rfl
    · exact restricted_masked q "update" _ _
  | _ =>
    dsimp only [Value.maskedRow]
    unfold updateStatement
    split <;> rfl

/-- The text of a statement does not depend on the bound values, nor does the complaint that there is
none. -/
theorem prepare_masked (q : Query) (terminal : Terminal) :
    q.masked.prepare terminal.masked = (q.prepare terminal).map Prepared.masked := by
  have selected (selection : String) (limit : Option Nat) :
      (do return { sql := ← Misuse.lift (q.masked.selectWith selection limit), params := q.masked.params } :
        Except Fault Prepared) =
      (do return { sql := ← Misuse.lift (q.selectWith selection limit), params := q.params } :
        Except Fault Prepared).map Prepared.masked := by
    rw [selectWith_masked, params_masked]
    cases q.selectWith selection limit <;> rfl
  cases terminal with
  | get => exact selected _ _
  | first => exact selected _ _
  | «exists» => exact selected _ _
  | insert row => exact insertStatement_masked q row
  | update row => exact updateStatement_masked q row
  | delete => exact restricted_masked q "delete" _ []

theorem selectStatement_masked (q : Query) : q.masked.selectStatement = q.selectStatement := by
  change q.masked.selectWith q.selection.display q.limit = _
  rw [selectWith_masked, selectStatement]

/-- What a query is shown as tells the number of its values only. -/
theorem summary_masked (q : Query) : q.masked.summary = q.summary := by
  have wheres : q.masked.predicates.length = q.predicates.length := List.length_map _
  have values : q.masked.params.length = q.params.length := by
    rw [params_masked]
    exact List.length_map _
  have table : q.masked.table = q.table := rfl
  unfold summary
  rw [wheres, values, table]

end Query
end DataLayer
