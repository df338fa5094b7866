import DataLayer.Proofs.Database.Storage
import DataLayer.Proofs.Query.Counting
import DataLayer.Proofs.Seed.Account
import DataLayer.Source.Bundled

/-! Seeding the roles that come with the library. A role is inserted when the table counts none of its name; main
statement: what was there stays, the roles that are missing are added in their order, and the work ends with the first
statement that fails. -/

namespace DataLayer.Seed

open DataLayer.Action DataLayer.Database DataLayer.Script DataLayer.Source

variable {σ : Type}

/-- A role. -/
structure Role where
  name : String
  description : Value

/-- A row of the table of roles. -/
structure RoleRow extends Role where
  id : Int

/-- The roles that a table has rows of, one name for each row. -/
def names (rows : List RoleRow) : List String := rows.map fun row => row.name

/-- The roles that come with the library. -/
def roles : List Role := [⟨"admin", .text "Super Administrator"⟩, ⟨"editor", .text "Content Editor"⟩]

/-- The statement that counts the roles of a name. -/
def countSql : String := "SELECT COUNT(*) AS count FROM roles WHERE name = ? LIMIT 1"

/-- The statement that inserts a role. -/
def insertSql : String := "INSERT INTO roles (name, description) VALUES (?, ?)"

namespace Role

/-- A role as it is seeded. -/
def entries (role : Role) : List (String × Value) := [("name", .text role.name), ("description", role.description)]

/-- The statement, with its values, that counts the rows of a role. -/
def counting (role : Role) : Value × List Value := (.text countSql, [.text role.name])

/-- The statement, with its values, that inserts a role. -/
def insertion (role : Role) : Value × List Value := (.text insertSql, [.text role.name, role.description])

/-- Holds of roles that a table has no row of. -/
def Missing (rows : List RoleRow) (role : Role) : Prop := role.name ∉ names rows

instance (rows : List RoleRow) : DecidablePred (Missing rows) := fun role =>
  inferInstanceAs (Decidable (role.name ∉ names rows))

/-- What is asked for a role as long as all goes well. -/
def statements (rows : List RoleRow) (role : Role) : List (Value × List Value) :=
  if role.Missing rows then [role.counting, role.insertion] else [role.counting]

end Role

/-- The roles that a table has no row of, in their order. -/
def missing (rows : List RoleRow) (wanted : List Role) : List Role := wanted.filter fun role => role.Missing rows

/-- What is asked for some roles as long as all goes well. -/
def plan (rows : List RoleRow) (wanted : List Role) : List (Value × List Value) :=
  wanted.flatMap fun role => role.statements rows

/-- What the seeder of the library seeds. -/
theorem rows_baselineRoles : Bundled.baselineRoles.rows = roles.map Role.entries := rfl

theorem roles_distinct : (roles.map Role.name).Nodup := by decide

/-- A database whose engine stores the roles: it counts the rows of a name, and appends a row to them. -/
structure KeepsRoles (db : Database σ) (table : Storage σ (List RoleRow)) : Prop extends KeepsStorage db table where
  count : ∀ name, table.Executes db.driver (.text countSql) [.text name] fun answer before after =>
    answer.columns = ["count"] ∧ after = before
  counted : ∀ {name engine answer executed cells after}, table.Settled engine →
    db.driver.execute (.text countSql) [.text name] engine = (.ok answer, executed) →
    db.driver.fetchAll executed = (.ok cells, after) → cells = [[.int ((names (table.current engine)).count name)]]
  insert : ∀ name description, table.Executes db.driver (.text insertSql) [.text name, description]
    fun answer before after => answer.columns = [] ∧ ∃ id, after = before ++ [⟨⟨name, description⟩, id⟩]

section

variable {db : Database σ} {table : Storage σ (List RoleRow)} {s t : Session σ}

/-- Counting the roles of a name changes nothing. -/
theorem count_stores (keeps : KeepsRoles db table) (name : String) (settled : table.Settled s.engine) :
    table.Done (fun before after => after = before) s (on (db.run (.text countSql) [.text name]) s) := by
  have done := run_stores keeps.toKeepsStorage (keeps.count name) (fun read => .inr read.2) settled
  generalize on (db.run (.text countSql) [.text name]) s = ended at done ⊢
  rcases ended with ⟨result, t⟩
  cases result with
  | error fault => exact done
  | ok statement =>
    obtain ⟨after, answer, -, same⟩ := done
    exact ⟨after, same⟩

/-- The answer tells how many roles of the name there are. -/
theorem run_count_rows (keeps : KeepsRoles db table) {name : String} {statement : Statement}
    (settled : table.Settled s.engine) (ran : on (db.run (.text countSql) [.text name]) s = (.ok statement, t)) :
    statement.rows = [[("count", .int ((names (table.current s.engine)).count name))]] := by
  obtain ⟨opened, ready, answer, executed, cells, events, fetched, opening, cursor, execute, fetch, rows⟩ := run_ok ran
  obtain ⟨ready', same⟩ := cursor_stores keeps.toKeepsStorage settled opening cursor
  have columns := keeps.count name ready ready'
  rw [execute] at columns
  obtain ⟨-, columns, -⟩ := columns
  rw [columns] at fetch rows
  cases fetch with
  | nothing bare => cases bare
  | rows wide fetch =>
    rw [rows, keeps.counted ready' execute fetch, same]
    rfl

/-- A role is counted first, and inserted where there is none of its name. -/
theorem on_insertMissing (db : Database σ) (role : Role) (s : Session σ) :
    on (insertMissing db Bundled.baselineRoles role.entries) s =
      match on (db.run (.text countSql) [.text role.name]) s with
      | (.error fault, t) => (.error fault, t)
      | (.ok statement, t) => match Query.countsSome statement.rows.head? with
        | .error misuse => (.error (.misuse misuse), t)
        | .ok there =>
          if there then (.ok (), t)
          else match on (db.run (.text insertSql) [.text role.name, role.description]) t with
            | (.error fault, u) => (.error fault, u)
            | (.ok _, u) => (.ok (), u) := by
  have asked : Query.prepare (Query.compare { table := .text "roles" } (.text "name") (.text "=") (.text role.name))
      .exists = .ok { sql := countSql, params := [.text role.name] } := rfl
  have added : Query.prepare { table := .text "roles" }
      (.insert (.map [(.text "name", .text role.name), (.text "description", role.description)])) =
        .ok { sql := insertSql, params := [.text role.name, role.description] } := rfl
  change on (Query.finish db (Query.compare { table := .text "roles" } (.text "name") (.text "=") (.text role.name))
    .exists >>= _) s = _
  rw [on_bind, Query.on_finish asked rfl]
  rcases on (db.run (.text countSql) [.text role.name]) s with ⟨fault | statement, t⟩
  · rfl
  · dsimp only [Query.ended]
    rw [on_bind, on_check]
    cases Query.countsSome statement.rows.head? with
    | error misuse => rfl
    | ok some =>
      cases some with
      | true => rfl
      | false =>
        change on (Query.finish db { table := .text "roles" }
          (.insert (.map [(.text "name", .text role.name), (.text "description", role.description)])) >>= _) t = _
        rw [on_bind, Query.on_finish added rfl]
        dsimp only
        rcases on (db.run (.text insertSql) [.text role.name, role.description]) t with ⟨fault | statement, u⟩ <;> rfl

/-- The ways in which one role can go: counting fails, there is a row of it, inserting fails, or it is inserted. -/
inductive Turns (db : Database σ) (table : Storage σ (List RoleRow)) (role : Role) (s : Session σ) :
    Except Fault Unit × Session σ → Prop where
  | uncounted {fault : Fault} {t : Session σ}
      (counting : on (db.run (.text countSql) [.text role.name]) s = (.error fault, t)) : Turns db table role s (.error fault, t)
  | present {statement : Statement} {t : Session σ}
      (counting : on (db.run (.text countSql) [.text role.name]) s = (.ok statement, t))
      (there : ¬ role.Missing (table.current s.engine)) : Turns db table role s (.ok (), t)
  | refused {statement : Statement} {fault : Fault} {t u : Session σ}
      (counting : on (db.run (.text countSql) [.text role.name]) s = (.ok statement, t))
      (absent : role.Missing (table.current s.engine))
      (inserting : on (db.run (.text insertSql) [.text role.name, role.description]) t = (.error fault, u)) :
      Turns db table role s (.error fault, u)
  | inserted {statement statement' : Statement} {t u : Session σ}
      (counting : on (db.run (.text countSql) [.text role.name]) s = (.ok statement, t))
      (absent : role.Missing (table.current s.engine))
      (inserting : on (db.run (.text insertSql) [.text role.name, role.description]) t = (.ok statement', u)) : Turns db table role s (.ok (), u)

theorem countsSome_names (rows : List RoleRow) (name : String) :
    Query.countsSome (some [("count", .int ((names rows).count name))]) = .ok (decide (name ∈ names rows)) := by
  rw [Query.countsSome_count]
  exact congrArg _ (decide_eq_decide.mpr List.count_pos_iff)

theorem insertMissing_turns (keeps : KeepsRoles db table) (role : Role) (settled : table.Settled s.engine) :
    Turns db table role s (on (insertMissing db Bundled.baselineRoles role.entries) s) := by
  rw [on_insertMissing]
  rcases counting : on (db.run (.text countSql) [.text role.name]) s with ⟨fault | statement, t⟩
  · exact .uncounted counting
  · dsimp only
    rw [run_count_rows keeps settled counting, List.head?_cons, countsSome_names]
    by_cases there : role.name ∈ names (table.current s.engine)
    · rw [decide_eq_true there]
      exact .present counting (not_not_intro there)
    · rw [decide_eq_false there]
      dsimp only
      rcases inserting : on (db.run (.text insertSql) [.text role.name, role.description]) t with ⟨fault | statement, u⟩
      · exact .refused counting there inserting
      · exact .inserted counting there inserting

/-- A statement is sent once, or not at all when it fails. -/
theorem run_sending {sql : Value} {params : List Value} {result : Except Fault Statement}
    (ran : on (db.run sql params) s = (result, t)) :
    ∃ new, t.events = s.events ++ new ∧ executions new <+: [(sql, params)] ∧
      ((∃ statement, result = .ok statement) → executions new = [(sql, params)]) := by
  obtain ⟨new, grown, sent | ⟨unsent, fault, failed⟩⟩ := run_executions db sql params s
  · rw [ran] at grown
    exact ⟨new, grown, sent ▸ List.prefix_rfl, fun _ => sent⟩
  · rw [ran] at grown failed
    refine ⟨new, grown, unsent ▸ List.nil_prefix, ?_⟩
    rintro ⟨statement, rfl⟩
    cases failed

/-- What comes of seeding some roles. The rows that were there stay, and those of the missing roles follow in their
order: all of them when the work goes well. Otherwise it ends with the first statement that failed. -/
structure Seeds (db : Database σ) (table : Storage σ (List RoleRow)) (wanted : List Role) (s : Session σ)
    (ended : Except Fault Unit × Session σ) (added : List RoleRow) (sending : List (Value × List Value)) : Prop where
  settled : table.Settled ended.2.engine
  grown : table.current ended.2.engine = table.current s.engine ++ added
  ordered : added.map RoleRow.toRole <+: missing (table.current s.engine) wanted
  planned : sending <+: plan (table.current s.engine) wanted
  sent : ∃ new, ended.2.events = s.events ++ new ∧ executions new = sending
  complete : ended.1 = .ok () → added.map RoleRow.toRole = missing (table.current s.engine) wanted ∧
    sending = plan (table.current s.engine) wanted
  broken : ∀ fault, ended.1 = .error fault → ∃ statement ∈ plan (table.current s.engine) wanted, ∃ u,
    on (db.run statement.1 statement.2) u = (.error fault, ended.2)

theorem statements_missing {rows : List RoleRow} {role : Role} (absent : role.Missing rows) :
    plan rows [role] = [role.counting, role.insertion] ∧ missing rows [role] = [role] := by
  simp [plan, missing, Role.statements, absent]

theorem statements_present {rows : List RoleRow} {role : Role} (there : ¬ role.Missing rows) :
    plan rows [role] = [role.counting] ∧ missing rows [role] = [] := by
  simp [plan, missing, Role.statements, there]

theorem counting_prefix_plan (rows : List RoleRow) (role : Role) : [role.counting] <+: plan rows [role] := by
  by_cases absent : role.Missing rows
  · rw [(statements_missing absent).1]
    exact ⟨[role.insertion], rfl⟩
  · exact (statements_present absent).1 ▸ List.prefix_rfl

/-- What comes of one role: its row is added when it was missing and all goes well, and nothing otherwise. -/
theorem Turns.seeds (keeps : KeepsRoles db table) {role : Role} {ended : Except Fault Unit × Session σ}
    (turns : Turns db table role s ended) (settled : table.Settled s.engine) :
    ∃ added sending, Seeds db table [role] s ended added sending := by
  have counts := count_stores keeps role.name settled
  cases turns with
  | uncounted counting =>
    obtain ⟨new, grown, part, -⟩ := run_sending counting
    rw [counting] at counts
    obtain ⟨after, same⟩ := counts
    have first := counting_prefix_plan (table.current s.engine) role
    refine ⟨[], _, after, by rw [same, List.append_nil], List.nil_prefix, part.trans first, ⟨new, grown, rfl⟩, nofun, ?_⟩
    rintro fault ⟨⟩
    exact ⟨role.counting, first.mem List.mem_cons_self, s, counting⟩
  | @present statement t counting there =>
    obtain ⟨new, grown, -, sent⟩ := run_sending counting
    rw [counting] at counts
    obtain ⟨after, same⟩ := counts
    obtain ⟨planned, nothing⟩ := statements_present there
    refine ⟨[], [role.counting], after, by rw [same, List.append_nil], List.nil_prefix, ?_, ⟨new, grown, sent ⟨_, rfl⟩⟩, ?_, nofun⟩
    · exact planned ▸ List.prefix_rfl
    · intro _
      exact ⟨nothing.symm, planned.symm⟩
  | @refused statement fault t u counting absent inserting =>
    obtain ⟨new, grown, -, sent⟩ := run_sending counting
    obtain ⟨more, grown', part, -⟩ := run_sending inserting
    rw [counting] at counts
    obtain ⟨between, same⟩ := counts
    obtain ⟨planned, single⟩ := statements_missing absent
    have inserts := run_stores keeps.toKeepsStorage (keeps.insert role.name role.description) (fun bare => .inl bare.1) between
    rw [inserting] at inserts
    obtain ⟨after, same'⟩ := inserts
    refine ⟨[], role.counting :: executions more, after, ?_, List.nil_prefix, ?_, ⟨new ++ more, ?_, ?_⟩, nofun, ?_⟩
    · rw [same', same, List.append_nil]
    · rw [planned]
      exact List.cons_prefix_cons.mpr ⟨rfl, part⟩
    · rw [grown', grown, List.append_assoc]
    · rw [executions_append, sent ⟨_, rfl⟩]
      rfl
    · rintro fault ⟨⟩
      exact ⟨role.insertion, planned ▸ List.mem_cons_of_mem _ List.mem_cons_self, t, inserting⟩
  | @inserted statement statement' t u counting absent inserting =>
    obtain ⟨new, grown, -, sent⟩ := run_sending counting
    obtain ⟨more, grown', -, sent'⟩ := run_sending inserting
    rw [counting] at counts
    obtain ⟨between, same⟩ := counts
    obtain ⟨planned, single⟩ := statements_missing absent
    have inserts := run_stores keeps.toKeepsStorage (keeps.insert role.name role.description) (fun bare => .inl bare.1) between
    rw [inserting] at inserts
    obtain ⟨after, answer, -, id, appended⟩ := inserts
    refine ⟨[⟨role, id⟩], [role.counting, role.insertion], after, ?_, ?_, ?_, ⟨new ++ more, ?_, ?_⟩, ?_, nofun⟩
    · rw [appended, same]
    · rw [single]
      exact List.prefix_rfl
    · exact planned ▸ List.prefix_rfl
    · rw [grown', grown, List.append_assoc]
    · rw [executions_append, sent ⟨_, rfl⟩, sent' ⟨_, rfl⟩]
      rfl
    · intro _
      exact ⟨single.symm, planned.symm⟩

variable {rows before after : List RoleRow} {role : Role} {rest wanted : List Role}

theorem missing_cons (rows : List RoleRow) (role : Role) (rest : List Role) :
    missing rows (role :: rest) = missing rows [role] ++ missing rows rest :=
  List.filter_append [role] rest

theorem plan_cons (rows : List RoleRow) (role : Role) (rest : List Role) :
    plan rows (role :: rest) = plan rows [role] ++ plan rows rest := by
  simp [plan]

/-- The rows that are inserted are those of missing roles. -/
theorem insertion_of_mem_plan {statement : Value × List Value} (member : statement ∈ plan rows wanted)
    (inserts : statement.1 = .text insertSql) :
    ∃ role ∈ wanted, statement = role.insertion ∧ role.name ∉ names rows := by
  have apart : countSql ≠ insertSql := by decide
  obtain ⟨role, known, asked⟩ := List.mem_flatMap.mp member
  unfold Role.statements at asked
  split at asked
  next absent =>
    rcases List.mem_pair.mp asked with rfl | rfl
    · exact absurd (Value.text.inj inserts) apart
    · exact ⟨role, known, rfl, absent⟩
  next =>
    cases List.mem_singleton.mp asked
    exact absurd (Value.text.inj inserts) apart

/-- What is missing and what is asked for depend on which of the names there are rows of. -/
theorem plan_congr (same : ∀ role ∈ wanted, role.Missing after ↔ role.Missing before) :
    missing after wanted = missing before wanted ∧ plan after wanted = plan before wanted := by
  constructor
  · exact List.filter_congr fun role member => decide_eq_decide.mpr (same role member)
  · refine List.flatMap_congr fun role member => ?_
    unfold Role.statements
    simp only [same role member]

/-- Where the first role went well, the others go as they would have without it. -/
theorem Seeds.cons {ended : Except Fault Unit × Session σ} {added later : List RoleRow}
    {sending more : List (Value × List Value)} (distinct : role.name ∉ rest.map Role.name)
    (first : Seeds db table [role] s (.ok (), t) added sending) (next : Seeds db table rest t ended later more) :
    Seeds db table (role :: rest) s ended (added ++ later) (sending ++ more) := by
  have ⟨own, asked⟩ := first.complete rfl
  have others : ∀ other ∈ rest, other.Missing (table.current t.engine) ↔ other.Missing (table.current s.engine) := by
    intro other member
    have apart : other.name ∉ added.map fun row => row.name := by
      intro inside
      obtain ⟨row, inside, same⟩ := List.mem_map.mp inside
      have listed : row.toRole ∈ missing (table.current s.engine) [role] := own ▸ List.mem_map_of_mem inside
      have single : row.toRole = role := List.mem_singleton.mp (List.mem_filter.mp listed).1
      refine distinct (List.mem_map.mpr ⟨other, member, ?_⟩)
      rw [← same, single]
    unfold Role.Missing names
    rw [first.grown, List.map_append, List.mem_append, not_or]
    exact and_iff_left apart
  obtain ⟨missing, plan⟩ := plan_congr others
  have ⟨ordered, planned, complete, broken⟩ := And.intro next.ordered (And.intro next.planned (And.intro next.complete next.broken))
  rw [missing] at ordered complete
  rw [plan] at planned complete broken
  obtain ⟨new, grown, sent⟩ := first.sent
  obtain ⟨new', grown', sent'⟩ := next.sent
  constructor
  case settled => exact next.settled
  case grown => rw [next.grown, first.grown, List.append_assoc]
  case ordered =>
    rw [List.map_append, own, missing_cons _ role rest]
    exact (List.prefix_append_right_inj _).mpr ordered
  case planned =>
    rw [asked, plan_cons _ role rest]
    exact (List.prefix_append_right_inj _).mpr planned
  case sent =>
    refine ⟨new ++ new', by rw [grown', grown, List.append_assoc], ?_⟩
    rw [executions_append, sent, sent']
  case complete =>
    intro went
    obtain ⟨all, whole⟩ := complete went
    rw [List.map_append, own, all, missing_cons _ role rest, asked, whole, plan_cons _ role rest]
    exact ⟨rfl, rfl⟩
  case broken =>
    intro fault failed
    obtain ⟨statement, member, ran⟩ := broken fault failed
    exact ⟨statement, plan_cons _ role rest ▸ List.mem_append_right _ member, ran⟩

/-- A role that fails ends the work. -/
theorem Seeds.stop {fault : Fault} {added : List RoleRow} {sending : List (Value × List Value)}
    (first : Seeds db table [role] s (.error fault, t) added sending) (rest : List Role) :
    Seeds db table (role :: rest) s (.error fault, t) added sending where
  settled := first.settled
  grown := first.grown
  ordered := missing_cons _ role rest ▸ first.ordered.trans (List.prefix_append _ _)
  planned := plan_cons _ role rest ▸ first.planned.trans (List.prefix_append _ _)
  sent := first.sent
  complete := nofun
  broken := by
    rintro other ⟨⟩
    obtain ⟨statement, member, ran⟩ := first.broken fault rfl
    exact ⟨statement, plan_cons _ role rest ▸ List.mem_append_left _ member, ran⟩

/-- What comes of roles with distinct names, one after the other. -/
theorem forM_seeds (keeps : KeepsRoles db table) (distinct : (wanted.map Role.name).Nodup)
    (settled : table.Settled s.engine) : ∃ added sending, Seeds db table wanted s
      (on ((wanted.map Role.entries).forM (insertMissing db Bundled.baselineRoles)) s) added sending := by
  induction wanted generalizing s with
  | nil =>
    refine ⟨[], [], settled, (List.append_nil _).symm, List.nil_prefix, List.nil_prefix, ?_, fun _ => ⟨rfl, rfl⟩, nofun⟩
    exact ⟨[], (List.append_nil _).symm, rfl⟩
  | cons role rest ih =>
    obtain ⟨apart, distinct'⟩ := List.nodup_cons.mp distinct
    obtain ⟨added, sending, first⟩ := (insertMissing_turns keeps role settled).seeds keeps settled
    have split : ((role :: rest).map Role.entries).forM (insertMissing db Bundled.baselineRoles) = (do
        insertMissing db Bundled.baselineRoles role.entries
        (rest.map Role.entries).forM (insertMissing db Bundled.baselineRoles)) := rfl
    rw [split, on_bind]
    rcases seeded : on (insertMissing db Bundled.baselineRoles role.entries) s with ⟨fault | nothing, t⟩
    · rw [seeded] at first
      exact ⟨_, _, first.stop rest⟩
    · rw [seeded] at first
      obtain ⟨later, more, next⟩ := ih distinct' first.settled
      exact ⟨_, _, first.cons apart next⟩

end

end DataLayer.Seed
