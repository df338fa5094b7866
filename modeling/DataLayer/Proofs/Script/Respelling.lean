import DataLayer.Proofs.Schema.Respelling
import DataLayer.Proofs.Script.Description

/-! Steps on a blueprint in two dialects. Main statement: after any steps the two blueprints are the same but for their
dialects, and what is built from them is the same but for the spelling of the counting columns and the options of the
table. -/

namespace DataLayer.Script

open DataLayer.Schema

/-- Holds of handles through which no step reaches the description of a table. -/
def Handle.Inert : Handle → Prop
  | .plain _ => True
  | .list items => ∀ item ∈ items, ∃ value, item = .plain value
  | _ => False

/-- Holds of what leads to nothing that a step could reach the description of a table through. -/
def Inert {ε : Type} (result : Except ε Handle) : Prop := ∀ handle, result = .ok handle → handle.Inert

section Members

variable {α ε : Type}

theorem inert_error (fault : ε) : Inert (.error fault : Except ε Handle) := nofun

theorem inert_ok {handle : Handle} (inert : handle.Inert) : Inert (.ok handle : Except ε Handle) := by
  rintro _ ⟨⟩
  exact inert

theorem inert_bind {first : Except ε α} {next : α → Except ε Handle} (rest : ∀ value, Inert (next value)) :
    Inert (first >>= next) := by
  cases first with
  | error fault => exact nofun
  | ok value => exact rest value

theorem inert_texts (words : List String) : (Handle.texts words).Inert := by
  intro item among
  obtain ⟨word, -, rfl⟩ := List.mem_map.mp among
  exact ⟨_, rfl⟩

theorem inert_taken {items : List Handle} (plain : Handle.Inert (.list items)) (position : Int) :
    Inert (Member.taken items position) := by
  unfold Member.taken
  dsimp only
  split
  · exact inert_error _
  · split
    · next item found =>
      have among : item ∈ items := List.mem_of_getElem? (Option.ite_none_left_eq_some.mp found).2
      obtain ⟨value, rfl⟩ := plain _ among
      exact inert_ok trivial
    · exact inert_error _

/-! Every answer of a plain value is a complaint or plain again, whichever call it is. -/

theorem inert_ofList {items : List Handle} (plain : Handle.Inert (.list items)) (call : Call) :
    Inert (Member.ofList items call) := by
  unfold Member.ofList
  dsimp only
  split
  all_goals
    repeat' first
      | exact inert_ok trivial
      | exact inert_ok plain
      | exact inert_error _
      | exact inert_taken plain _
      | refine inert_bind fun _ => ?_
      | split

theorem inert_ofText (kind word : String) (call : Call) : Inert (Member.ofText kind word call) := by
  unfold Member.ofText
  dsimp only
  split
  all_goals
    repeat' first
      | exact inert_ok trivial
      | exact inert_ok (inert_texts _)
      | exact inert_error _
      | refine inert_bind fun _ => ?_
      | split

theorem inert_ofInteger (kind : String) (n : Int) (call : Call) : Inert (Member.ofInteger kind n call) := by
  unfold Member.ofInteger
  split
  all_goals
    first
      | exact inert_error _
      | exact inert_bind fun _ => inert_ok trivial

theorem inert_ofValue (value : Value) (call : Call) : Inert (Member.ofValue value call) := by
  have items (values : List Value) : Handle.Inert (.list (values.map Handle.plain)) := by
    intro item among
    obtain ⟨value, -, rfl⟩ := List.mem_map.mp among
    exact ⟨value, rfl⟩
  unfold Member.ofValue
  split
  · exact inert_ofText _ _ _
  · split
    · exact inert_ofInteger _ _ _
    · exact inert_ofInteger _ _ _
    · exact inert_ofList (items _) _
    · exact inert_error _

theorem inert_lift {result : Except Misuse Handle} (inert : Inert result) : Inert (Misuse.lift result) := by
  cases result with
  | error misuse => exact nofun
  | ok handle => exact inert_ok (inert handle rfl)

end Members

/-- The same draft in another dialect. -/
def Draft.on (d : Draft) (dialect : Dialect) : Draft := { d with blueprint := d.blueprint.on dialect }

namespace BlueprintRequest

variable {dialect : Dialect}

/-- Two outcomes that leave the same draft but for its dialect, and that lead to the same or to nothing that reaches
it. -/
structure Parallel (dialect : Dialect) (first second : Outcome) : Prop where
  draft : second.2 = first.2.on dialect
  result : second.1 = first.1 ∨ Inert first.1 ∧ Inert second.1

theorem change_parallel (d : Draft) {handle : Blueprint → Handle} (blind : ∀ b, handle (b.on dialect) = handle b)
    {result other : Except Fault Blueprint} (same : other = result.map (·.on dialect)) :
    Parallel dialect (change d handle result) (change (d.on dialect) handle other) := by
  subst same
  cases result with
  | error fault => exact ⟨rfl, .inl rfl⟩
  | ok blueprint => exact ⟨rfl, .inl (congrArg Except.ok (blind blueprint))⟩

theorem addColumn_on (b : Blueprint) (name type length : Value) :
    (b.on dialect).addColumn name type length = (b.addColumn name type length).map (·.on dialect) := by
  change (Column.declare name type length (!b.isCreate) >>= _ : Except Fault Blueprint) =
    (Column.declare name type length (!b.isCreate) >>= _ : Except Fault Blueprint).map _
  cases Column.declare name type length (!b.isCreate) <;> rfl

theorem addCounters_on (b : Blueprint) (names : List String) :
    (b.on dialect).addCounters names = (b.addCounters names).map (·.on dialect) := by
  induction names generalizing b with
  | nil => rfl
  | cons name names ih =>
    rw [Blueprint.addCounters, Blueprint.addCounters, addColumn_on]
    cases b.addColumn (.text name) (.columnType .integer) .null with
    | error fault => rfl
    | ok added => exact ih (added.modifyAt (added.columns.length - 1) (.default (.int 0)))

theorem modifyLast_on (b : Blueprint) (name : String) (modifier : Modifier) :
    (b.on dialect).modifyLast name modifier = (b.modifyLast name modifier).map (·.on dialect) := by
  unfold Blueprint.modifyLast
  change (if b.columns.isEmpty then _ else _ : Except Fault Blueprint) = _
  split <;> rfl

theorem dropColumn_on (b : Blueprint) (name : Value) :
    Misuse.lift ((b.on dialect).dropColumn name) = (Misuse.lift (b.dropColumn name)).map (·.on dialect) := by
  unfold Blueprint.dropColumn
  cases Dialect.quoteIdentifier name <;> rfl

theorem renameColumn_on (b : Blueprint) (source target definition : Value) :
    Misuse.lift ((b.on dialect).renameColumn source target definition) =
      (Misuse.lift (b.renameColumn source target definition)).map (·.on dialect) := by
  unfold Blueprint.renameColumn
  cases Dialect.quoteIdentifier source with
  | error misuse => rfl
  | ok source => cases Dialect.quoteIdentifier target <;> rfl

theorem fragments_inert (d : Draft) : Inert (BlueprintRequest.fragments.perform d).1 := by
  change Inert ((Misuse.lift d.blueprint.fragments).map Handle.texts)
  cases d.blueprint.fragments with
  | error misuse => exact nofun
  | ok words => exact inert_ok (inert_texts words)

theorem build_inert (d : Draft) : Inert (BlueprintRequest.build.perform d).1 := by
  change Inert (d.blueprint.build.map _)
  rcases d.blueprint.build with fault | - | sql
  · exact nofun
  · exact inert_ok trivial
  · exact inert_ok trivial

theorem perform_parallel (d : Draft) (request : BlueprintRequest) :
    Parallel dialect (request.perform d) (request.perform (d.on dialect)) := by
  cases request with
  | column name type length => exact change_parallel d (fun _ => rfl) (addColumn_on _ _ _ _)
  | counters names => exact change_parallel d (fun _ => rfl) (addCounters_on _ _)
  | modifyLast name modifier => exact change_parallel d (fun _ => rfl) (modifyLast_on _ _ _)
  | dropColumn name => exact change_parallel d (fun _ => rfl) (dropColumn_on _ _)
  | renameColumn source target definition => exact change_parallel d (fun _ => rfl) (renameColumn_on _ _ _ _)
  | fragments => exact ⟨rfl, .inr ⟨fragments_inert _, fragments_inert _⟩⟩
  | build => exact ⟨rfl, .inr ⟨build_inert _, build_inert _⟩⟩

end BlueprintRequest

namespace BlueprintStep

open BlueprintRequest (Outcome Parallel)

variable {dialect : Dialect}

theorem performColumn_parallel (d : Draft) (position : Nat) (step : Column → Except Misuse ColumnStep) :
    Parallel dialect (performColumn d position step) (performColumn (d.on dialect) position step) := by
  have same : (d.on dialect).blueprint.columns[position]? = d.blueprint.columns[position]? := rfl
  unfold performColumn
  rw [same]
  cases d.blueprint.columns[position]? with
  | none => exact ⟨rfl, .inl rfl⟩
  | some column =>
    dsimp only
    cases step column with
    | error misuse => exact ⟨rfl, .inl rfl⟩
    | ok step => exact ⟨rfl, .inl rfl⟩

theorem performCall_parallel (d : Draft) (call : Call) :
    Parallel dialect (performCall d call) (performCall (d.on dialect) call) := by
  have same : BlueprintRequest.ofCall (d.on dialect) call = BlueprintRequest.ofCall d call := rfl
  unfold performCall
  rw [same]
  cases BlueprintRequest.ofCall d call with
  | error misuse => exact ⟨rfl, .inl rfl⟩
  | ok request => exact request.perform_parallel d

theorem performOn_parallel (d : Draft) (handle : Handle) (call : Call) :
    Parallel dialect (performOn d handle call) (performOn (d.on dialect) handle call) := by
  cases handle with
  | draft => exact performCall_parallel d call
  | column position => exact performColumn_parallel d position _
  | plain value => exact ⟨rfl, .inl rfl⟩
  | list items => exact ⟨rfl, .inl rfl⟩

/-- A step on what reaches no draft leaves it as it is, and leads to nothing else that would. -/
theorem performOn_inert {handle : Handle} (inert : handle.Inert) (d : Draft) (call : Call) :
    (performOn d handle call).2 = d ∧ Inert (performOn d handle call).1 := by
  cases handle with
  | draft => exact inert.elim
  | column position => exact inert.elim
  | plain value => exact ⟨rfl, inert_lift (inert_ofValue value call)⟩
  | list items => exact ⟨rfl, inert_lift (inert_ofList inert call)⟩

theorem performAfter_inert {outcome : Outcome} (inert : Inert outcome.1) (calls : List Call) :
    (performAfter outcome calls).2 = outcome.2 ∧ Inert (performAfter outcome calls).1 := by
  induction calls generalizing outcome with
  | nil => exact ⟨rfl, inert⟩
  | cons call rest ih =>
    obtain ⟨fault | handle, d⟩ := outcome
    · exact ⟨rfl, nofun⟩
    · obtain ⟨kept, next⟩ := performOn_inert (inert handle rfl) d call
      obtain ⟨left, last⟩ := ih next
      exact ⟨left.trans kept, last⟩

theorem performAfter_parallel {first second : Outcome} (parallel : Parallel dialect first second) (calls : List Call) :
    Parallel dialect (performAfter first calls) (performAfter second calls) := by
  induction calls generalizing first second with
  | nil => exact parallel
  | cons call rest ih =>
    rcases parallel.result with same | ⟨inert, other⟩
    · obtain ⟨result, d⟩ := first
      obtain ⟨result', d'⟩ := second
      obtain rfl : d' = d.on dialect := parallel.draft
      obtain rfl : result' = result := same
      cases result' with
      | error fault => exact ⟨rfl, .inl rfl⟩
      | ok handle => exact ih (performOn_parallel d handle call)
    · -- from here on the answers differ, but nothing of them leads back to a draft
      obtain ⟨left, last⟩ := performAfter_inert inert (call :: rest)
      obtain ⟨left', last'⟩ := performAfter_inert other (call :: rest)
      exact ⟨by rw [left, left', parallel.draft], .inr ⟨last, last'⟩⟩

theorem performFirst_parallel (d : Draft) (step : BlueprintStep) :
    Parallel dialect (performFirst d step) (performFirst (d.on dialect) step) := by
  have same : (d.on dialect).look? step.call.name = d.look? step.call.name := rfl
  have count : (d.on dialect).blueprint.columns.length = d.blueprint.columns.length := rfl
  unfold performFirst
  dsimp only
  rw [same, count]
  split
  · exact ⟨rfl, .inl rfl⟩
  · cases step.column with
    | none =>
      dsimp only
      cases d.look? step.call.name with
      | some handle => exact ⟨rfl, .inl rfl⟩
      | none => exact performCall_parallel d step.call
    | some index =>
      dsimp only
      cases position? d.blueprint.columns.length index with
      | none => exact ⟨rfl, .inl rfl⟩
      | some position => exact performColumn_parallel d position _

/-- A step in another dialect does the same to the draft. -/
theorem perform_parallel (d : Draft) (step : BlueprintStep) :
    Parallel dialect (perform d step) (perform (d.on dialect) step) :=
  performAfter_parallel (performFirst_parallel d step) step.after

theorem performAll_on (d : Draft) (steps : List BlueprintStep) :
    performAll (d.on dialect) steps = (performAll d steps).on dialect := by
  induction steps generalizing d with
  | nil => rfl
  | cons step rest ih =>
    have one := (@perform_parallel dialect d step).draft
    change performAll (perform (d.on dialect) step).2 rest = (performAll (perform d step).2 rest).on dialect
    rw [one, ih]

/-- The same steps in two dialects lead to the same table, of which both dialects or none can build a statement. The
statement of the embedded database is that of the server but for the counting columns, whose type is the member of the
closed set itself, and for the options. Columns whose type is but the word of that member are spelled for a server in
both; without them, the counting columns are all those whose type equals the member. -/
theorem performAll_respelled {table : Value} {isCreate : Bool} {b : Blueprint}
    (started : Blueprint.start table isCreate .mysql = .ok b) (flag : Value) (steps : List BlueprintStep) :
    let server := (performAll ⟨b, flag⟩ steps).blueprint
    ∃ other, Blueprint.start table isCreate .sqlite = .ok other ∧
      let embedded := (performAll ⟨other, flag⟩ steps).blueprint
      embedded = { server with dialect := .sqlite } ∧
      ((∃ sql, server.build = .ok (some sql)) ↔ ∃ sql, embedded.build = .ok (some sql)) ∧
      (server.build = .ok none ↔ embedded.build = .ok none) ∧
      ((∃ sql, server.build = .ok (some sql)) → Blueprint.Respelled Value.isCounter server embedded ∧
        ((∀ c ∈ server.columns, c.type == .columnType .increments → c.type = .columnType .increments) →
          Blueprint.Respelled (· == .columnType .increments) server embedded)) := by
  intro server
  have beside : Blueprint.start table isCreate .sqlite = .ok (b.on .sqlite) := by
    obtain rfl := start_eq_ok started
    unfold Blueprint.start at started ⊢
    rcases named : table.isBlankName with misuse | - | - <;> rw [named] at started <;> cases started
    rfl
  have dialect : server.dialect = .mysql := by
    have recorded := (started_recorded started flag steps).draft
    change (performAll ⟨b, flag⟩ steps).blueprint.dialect = _
    rw [recorded, start_eq_ok started]
    rfl
  have same : performAll ⟨b.on .sqlite, flag⟩ steps = (performAll ⟨b, flag⟩ steps).on .sqlite :=
    performAll_on ⟨b, flag⟩ steps
  refine ⟨b.on .sqlite, beside, ?_⟩
  rw [same]
  refine ⟨rfl, Blueprint.build_both dialect, ?_, fun ⟨sql, built⟩ => ?_⟩
  · rw [Blueprint.build_eq_none, Blueprint.build_eq_none]
    rfl
  · have respelled := Blueprint.build_respelled dialect built
    exact ⟨respelled, respelled.of_members⟩

/-- A table with a counting key and a text, described through the calls that a migration makes. -/
theorem performAll_respelled_keyed :
    let call (name : String) (args : List Value) : BlueprintStep := { call := { name, args } }
    let steps := [call "id" [], call "add_column" [.text "name", .text "string"], call "unique" []]
    let b : Blueprint := { table := .text "users", isCreate := true, dialect := .mysql }
    let server := (performAll ⟨b, .bool true⟩ steps).blueprint
    let embedded := (performAll ⟨{ b with dialect := .sqlite }, .bool true⟩ steps).blueprint
    Blueprint.start (.text "users") true .mysql = .ok b ∧
      server.build = .ok (some ("CREATE TABLE IF NOT EXISTS \x60users\x60 (" ++
        "\x60id\x60 INT AUTO_INCREMENT PRIMARY KEY, " ++
        "\x60name\x60 VARCHAR(255) UNIQUE) ENGINE=InnoDB DEFAULT CHARSET=utf8mb4;")) ∧
      embedded.build = .ok (some ("CREATE TABLE IF NOT EXISTS \x60users\x60 (" ++
        "\x60id\x60 INTEGER PRIMARY KEY AUTOINCREMENT, \x60name\x60 VARCHAR(255) UNIQUE);")) ∧
      (∀ c ∈ server.columns, c.type == .columnType .increments → c.type = .columnType .increments) ∧
      Blueprint.Respelled (· == .columnType .increments) server embedded := by
  intro call steps b server embedded
  have started : Blueprint.start (.text "users") true .mysql = .ok b := rfl
  have built : server.build = .ok (some ("CREATE TABLE IF NOT EXISTS \x60users\x60 (" ++
      "\x60id\x60 INT AUTO_INCREMENT PRIMARY KEY, " ++
      "\x60name\x60 VARCHAR(255) UNIQUE) ENGINE=InnoDB DEFAULT CHARSET=utf8mb4;")) := by rfl
  have members : ∀ c ∈ server.columns, c.type == .columnType .increments → c.type = .columnType .increments := by
    have columns : server.columns = [{ name := .text "id", type := .columnType .increments },
        { name := .text "name", type := .text "string", modifiers := ["UNIQUE"] }] := rfl
    rw [columns, List.forall_mem_cons, List.forall_mem_singleton]
    refine ⟨fun _ => rfl, fun equal => ?_⟩
    rw [Value.text_beq_columnType] at equal
    exact absurd equal (by decide)
  obtain ⟨other, beside, -, -, -, respelled⟩ := performAll_respelled started (.bool true) steps
  cases beside
  exact ⟨started, built, by rfl, members, (respelled ⟨_, built⟩).2 members⟩

/-- A column whose type is the word of the counting member equals it, and yet is spelled for a server. -/
theorem performAll_misspelled :
    let steps : List BlueprintStep := [{ call := { name := "add_column", args := [.text "n", .text "increments"] } }]
    let b : Blueprint := { table := .text "t", isCreate := true, dialect := .mysql }
    let server := (performAll ⟨b, .bool true⟩ steps).blueprint
    let embedded := (performAll ⟨{ b with dialect := .sqlite }, .bool true⟩ steps).blueprint
    embedded.build = .ok (some "CREATE TABLE IF NOT EXISTS \x60t\x60 (\x60n\x60 INT AUTO_INCREMENT PRIMARY KEY);") ∧
      ¬ Blueprint.Respelled (· == .columnType .increments) server embedded := by
  intro steps b server embedded
  have built : embedded.build =
      .ok (some "CREATE TABLE IF NOT EXISTS \x60t\x60 (\x60n\x60 INT AUTO_INCREMENT PRIMARY KEY);") := by rfl
  refine ⟨built, ?_⟩
  rintro ⟨types, typed, -, again⟩
  have described : server = { b with columns := [{ name := .text "n", type := .text "increments" }] } := rfl
  rw [described] at typed again
  obtain ⟨type, rfl⟩ : ∃ type, types = [type] := List.length_eq_one_iff.mp typed.length_eq.symm
  have counts : (Value.text "increments" == .columnType .increments) = true := by
    rw [Value.text_beq_columnType, beq_iff_eq]
    rfl
  rw [built, List.zipWith_cons_cons, List.zipWith_nil_left] at again
  dsimp only at again
  rw [if_pos counts] at again
  have claimed : Blueprint.spelled { b with columns := [{ name := .text "n", type := .text "increments" }] }
      [Dialect.embeddedKey] "" =
        "CREATE TABLE IF NOT EXISTS \x60t\x60 (\x60n\x60 INTEGER PRIMARY KEY AUTOINCREMENT);" := by decide
  rw [claimed] at again
  exact absurd (Option.some.inj (Except.ok.inj again)) (by decide)

end BlueprintStep
end DataLayer.Script
