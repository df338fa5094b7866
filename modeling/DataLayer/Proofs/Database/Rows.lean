import DataLayer.Engine.Scripted
import DataLayer.Proofs.Database.Protocol
import DataLayer.Proofs.Entries
import Mathlib.Data.List.Forall2

/-! Rows by the names of their columns. An answer can name a column twice, and its rows can be shorter or longer than
the columns. Main statement: every row of an answer becomes a mapping of the names that it has cells for, in the order
in which they come first, each to the last of its cells; and these mappings are what a query, a query for one row and a
statement that yields rows come to. -/

namespace DataLayer

open DataLayer.Action

variable {σ : Type}

namespace Row

/-- A row maps the names of the columns that there are cells for, in the order in which they come first, each to the
cell at the last of its places. -/
structure Maps (columns : List String) (cells : List Value) (row : Row) : Prop where
  names : Entries.keys row = (columns.take cells.length).eraseDups
  last : ∀ ⦃place name cell⦄, columns[place]? = some name → cells[place]? = some cell →
    (∀ later, place < later → later < cells.length → columns[later]? ≠ some name) → Entries.get? name row = some cell

theorem names_zip (columns : List String) (cells : List Value) :
    Entries.keys (columns.zip cells) = columns.take cells.length := by
  induction columns generalizing cells with
  | nil => simp [Entries.keys]
  | cons name columns ih =>
    cases cells with
    | nil => rfl
    | cons cell cells => exact congrArg (name :: ·) (ih cells)

theorem ofColumns_maps (columns : List String) (cells : List Value) : Maps columns cells (ofColumns columns cells) where
  names := by
    unfold ofColumns
    rw [Entries.keys_putAll_nil, names_zip]
  last place name cell named filled latest := by
    have here : (columns.zip cells)[place]? = some (name, cell) := List.getElem?_zip_eq_some.mpr ⟨named, filled⟩
    obtain ⟨inside, same⟩ := List.getElem?_eq_some_iff.mp here
    have split : columns.zip cells = (columns.zip cells).take place ++ (name, cell) :: (columns.zip cells).drop (place + 1) := by
      rw [← same, ← List.drop_eq_getElem_cons inside, List.take_append_drop]
    unfold ofColumns
    rw [split]
    apply Entries.get?_putAll_last
    intro member
    obtain ⟨⟨other, value⟩, behind, rfl⟩ := List.mem_map.mp member
    obtain ⟨distance, found⟩ := List.mem_iff_getElem?.mp behind
    rw [List.getElem?_drop] at found
    obtain ⟨again, cell'⟩ := List.getElem?_zip_eq_some.mp found
    exact latest _ (by omega) (List.getElem?_eq_some_iff.mp cell').1 again

/-- Where no name comes twice and every column has its cell, reading the columns back in order gives the cells. -/
theorem Maps.cells {columns : List String} {cells : List Value} {row : Row} (maps : Maps columns cells row)
    (distinct : columns.Nodup) (level : columns.length = cells.length) :
    columns.map (fun name => Entries.get? name row) = cells.map some := by
  refine List.ext_getElem? fun place => ?_
  rw [List.getElem?_map, List.getElem?_map]
  by_cases inside : place < columns.length
  · have named : columns[place]? = some columns[place] := List.getElem?_eq_getElem inside
    have within : place < cells.length := level ▸ inside
    have filled : cells[place]? = some cells[place] := List.getElem?_eq_getElem within
    have once : ∀ later, place < later → later < cells.length → columns[later]? ≠ some columns[place] := by
      intro later behind _ again
      obtain ⟨known, same⟩ := List.getElem?_eq_some_iff.mp again
      exact absurd ((List.Nodup.getElem_inj_iff distinct).mp same) (by omega)
    rw [named, filled, Option.map_some, Option.map_some, maps.last named filled once]
  · rw [List.getElem?_eq_none (by omega), List.getElem?_eq_none (by omega)]
    rfl

end Row

namespace Database

variable {db : Database σ} {sql : Value} {params : List Value} {columns : List String} {cells : List (List Value)}
  {s : Session σ}

/-- The engine answers a statement with columns and rows of cells: a handle is held or opened, a cursor too, and nothing
goes wrong up to the commit. -/
def Yields (db : Database σ) (sql : Value) (params : List Value) (columns : List String) (cells : List (List Value))
    (s : Session σ) : Prop :=
  ∃ opened ready answer executed fetched committed,
    Action.on (ensureHandle db) s = (.ok (), opened) ∧
    db.driver.openCursor (db.isPrepared params) opened.engine = (.ok (), ready) ∧
    db.driver.execute sql params ready = (.ok answer, executed) ∧ answer.columns = columns ∧
    db.driver.fetchAll executed = (.ok cells, fetched) ∧ db.driver.commit fetched = (.ok (), committed)

/-- A statement that is answered with columns has the rows of the answer by their names. -/
theorem Yields.run (yields : Yields db sql params columns cells s) (filled : columns ≠ []) :
    ∃ statement t, Action.on (run db sql params) s = (.ok statement, t) ∧ statement.rows = cells.map (Row.ofColumns columns) := by
  obtain ⟨opened, ready, answer, executed, fetched, committed, opens, cursor, execute, rfl, fetch, commit⟩ := yields
  obtain ⟨result, events, after, performs, ran⟩ := run_performed opens cursor sql
  have fetches {rows : Except EngineFault (List (List Value))} {events : List EngineEvent} {last : σ}
      (way : Fetches db.driver answer.columns executed rows events last) : rows = .ok cells ∧ last = fetched := by
    cases way with
    | nothing bare => exact absurd bare filled
    | rows wide fetched =>
      rw [fetch] at fetched
      cases fetched
      exact ⟨rfl, rfl⟩
  cases performs with
  | refused refused =>
    rw [execute] at refused
    cases refused
  | unfetched executed way =>
    rw [execute] at executed
    cases executed
    cases (fetches way).1
  | uncommitted executed way stuck =>
    rw [execute] at executed
    cases executed
    rw [(fetches way).2, commit] at stuck
    cases stuck
  | done executed way ended =>
    rw [execute] at executed
    cases executed
    cases (fetches way).1
    exact ⟨_, _, ran, rfl⟩

/-- Every row of an answer becomes one mapping, in order. A query for one row comes to the first of them, and to nothing
exactly where there are no rows; a statement that yields rows comes to all of them. Where no name comes twice, the cells
of a row as wide as the columns are read back from its mapping. -/
theorem query_maps (yields : Yields db sql params columns cells s) (filled : columns ≠ []) :
    ∃ rows t, Action.on (query db sql params) s = (.ok rows, t) ∧ List.Forall₂ (Row.Maps columns) cells rows ∧
      Action.on (queryOne db sql params) s = (.ok rows.head?, t) ∧ (rows.head? = none ↔ cells = []) ∧
      (returnsRowsValue sql = .ok true → Action.on (execute db sql params) s = (.ok (some rows), t)) ∧
      (columns.Nodup → List.Forall₂ (fun cells row => columns.length = cells.length →
        columns.map (fun name => Entries.get? name row) = cells.map some) cells rows) := by
  obtain ⟨statement, t, ran, mapped⟩ := yields.run filled
  have maps : List.Forall₂ (Row.Maps columns) cells statement.rows := by
    rw [mapped]
    exact List.forall₂_map_right_iff.mpr (List.forall₂_same.mpr fun row _ => Row.ofColumns_maps columns row)
  have queried : Action.on (query db sql params) s = (.ok statement.rows, t) := by
    unfold query
    rw [on_bind, ran]
    rfl
  refine ⟨statement.rows, t, queried, maps, ?_, ?_, fun keyword => ?_, fun distinct => ?_⟩
  · unfold queryOne
    rw [on_bind, queried]
    rfl
  · rw [List.head?_eq_none_iff, mapped, List.map_eq_nil_iff]
  · unfold execute
    rw [on_bind, ran]
    dsimp only
    rw [on_bind, keyword, on_check_ok]
    rfl
  · exact maps.imp fun cells row maps level => maps.cells distinct level

/-- A join of two tables that both have a number. One of its rows is shorter than the columns, and one is longer. -/
theorem query_maps_joined :
    let columns := ["id", "name", "id"]
    let cells : List (List Value) := [[.int 1, .text "a", .int 2], [.int 3], [.int 4, .text "b", .int 5, .int 6]]
    let db : Database Scripted.Engine :=
      { kind := .sqlite, config := {}, now := ⟨⟨2025, 1, 1⟩, ⟨0, 0, 0, 0, none⟩⟩, driver := Scripted.driver }
    let s : Session Scripted.Engine := { engine := { fallback := { columns, rows := cells } } }
    let sql : Value := .text "SELECT * FROM t JOIN u ON t.id = u.t"
    let rows : List Row := [[("id", .int 2), ("name", .text "a")], [("id", .int 3)], [("id", .int 5), ("name", .text "b")]]
    columns ≠ [] ∧ Yields db sql [] columns cells s ∧ returnsRowsValue sql = .ok true ∧
      List.Forall₂ (Row.Maps columns) cells rows ∧
      ∃ t, Action.on (query db sql []) s = (.ok rows, t) ∧ Action.on (queryOne db sql []) s = (.ok rows.head?, t) ∧
        Action.on (execute db sql []) s = (.ok (some rows), t) := by
  intro columns cells db s sql rows
  have filled : columns ≠ [] := List.cons_ne_nil _ _
  have yields : Yields db sql [] columns cells s := ⟨_, _, _, _, _, _, rfl, rfl, rfl, rfl, rfl, rfl⟩
  have keyword : returnsRowsValue sql = .ok true := rfl
  obtain ⟨found, t, queried, maps, one, -, executed, -⟩ := query_maps yields filled
  obtain rfl : found = rows := Except.ok.inj (congrArg Prod.fst queried.symm)
  exact ⟨filled, yields, keyword, maps, t, queried, one, executed keyword⟩

end Database
end DataLayer
