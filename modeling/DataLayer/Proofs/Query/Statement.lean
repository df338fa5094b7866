import DataLayer.Engine.Scripted
import DataLayer.Proofs.Query.Alignment
import DataLayer.Proofs.Query.Terminal

/-! The statements of a query whose placeholders are aligned. Every way of ending it puts the fragments
of the predicates behind whatever the statement begins with, and their values behind those of the
beginning, so the k-th placeholder of the whole is the one that the k-th value was given with. -/

namespace DataLayer.Query

open DataLayer.Text DataLayer.Database

variable {σ : Type} {q : Query}

theorem aligned_start {table : Value} (started : start table = .ok q) (plain : table.Plain) : q.Aligned := by
  obtain rfl := start_ok started
  exact ⟨plain, (by decide : Plain "*"), by simp, by simp, by simp⟩

/-- Changes that are all taken keep the placeholders and the values of a query together. -/
theorem aligned_applyAll {clauses : List Clause} {after : Query} (aligned : q.Aligned)
    (plain : ∀ clause ∈ clauses, clause.Aligned) (applied : q.applyAll clauses = .ok after) : after.Aligned := by
  induction clauses generalizing q with
  | nil => exact Except.ok.inj applied ▸ aligned
  | cons clause rest ih =>
    simp only [applyAll] at applied
    split at applied
    next changed taken =>
      have kept := aligned_apply aligned (plain clause List.mem_cons_self) taken
      exact ih kept (fun other member => plain other (List.mem_cons_of_mem clause member)) applied
    next => cases applied

variable (tag : Value → String)

/-- A fragment reads like the one with the tags of its own values in it. -/
theorem fragment_reads {p : Predicate} (count : holes p.fragment.word = p.params.length) :
    Reads p.fragment.word (p.params.map tag) (p.tagged tag).fragment.word := by
  refine ⟨by rw [count, List.length_map], ?_⟩
  unfold Predicate.tagged
  cases spelled : p.fragment.text? with
  | some word =>
    have own : p.fragment.word = word := by rw [Value.word, spelled, Option.getD_some]
    rw [own]
    rfl
  | none => simp [Value.word, spelled, fill, fillChars]

theorem text?_tagged (p : Predicate) : (p.tagged tag).fragment.text?.isSome = p.fragment.text?.isSome := by
  unfold Predicate.tagged
  cases spelled : p.fragment.text? with
  | some word => rfl
  | none => simp [spelled]

/-- The condition reads like the fragments with their own values in them, one after the other. -/
theorem whereClause_reads {text : String} (aligned : q.Aligned) (compiled : q.whereClause = .ok text) :
    ∃ filled, (q.tagged tag).whereClause = .ok filled ∧ Reads text (q.params.map tag) filled := by
  unfold whereClause at compiled ⊢
  cases joined : Value.joinTexts " AND " (q.predicates.map Predicate.fragment) with
  | error misuse => rw [joined] at compiled; cases compiled
  | ok conditions =>
    rw [joined] at compiled
    cases compiled
    obtain ⟨every, rfl⟩ := Value.joinTexts_eq_ok.mp joined
    have taggedEvery : ∀ item ∈ (q.tagged tag).predicates.map Predicate.fragment, item.text?.isSome := by
      simp only [tagged, List.map_map, List.forall_mem_map, Function.comp_apply, text?_tagged] at every ⊢
      exact every
    rw [Value.joinTexts_eq_ok.mpr ⟨taggedEvery, rfl⟩]
    refine ⟨_, rfl, (Reads.plain (by decide)).append ?_⟩
    have each := ReadsEach.map fun p member => fragment_reads tag (aligned.predicates p member)
    simpa only [tagged, params, List.map_map, List.map_flatMap, Function.comp_def]
      using each.intercalate (by decide)

theorem whereParts_reads {parts : List String} (aligned : q.Aligned) (compiled : q.whereParts = .ok parts) :
    ∃ filled, (q.tagged tag).whereParts = .ok filled ∧ ReadsEach parts (q.params.map tag) filled := by
  unfold whereParts at compiled ⊢
  have same : (q.tagged tag).predicates.isEmpty = q.predicates.isEmpty := by simp [tagged]
  rw [same]
  split at compiled
  next bare =>
    cases compiled
    have none : q.params = [] := by rw [params, List.isEmpty_iff.mp bare]; rfl
    rw [if_pos bare, none]
    exact ⟨_, rfl, .nil⟩
  next some =>
    rw [if_neg some]
    cases condition : q.whereClause with
    | error misuse => rw [condition] at compiled; cases compiled
    | ok text =>
      rw [condition] at compiled
      cases compiled
      obtain ⟨filled, compiled, reads⟩ := whereClause_reads tag aligned condition
      rw [compiled]
      exact ⟨_, rfl, by simpa using ReadsEach.cons reads .nil⟩

theorem countPart_plain {keyword : String} (plain : Plain keyword) (count : Option Nat) :
    ∀ part ∈ countPart keyword count, Plain part := by
  cases count with
  | none => simp [countPart]
  | some n =>
    intro part member
    rw [List.mem_singleton.mp member]
    exact plain_append (plain_append plain (by decide)) (plain_decimal n)

/-- Nothing but the condition brings a placeholder into a select statement. -/
theorem selectWith_reads {selection text : String} {limit : Option Nat} (aligned : q.Aligned)
    (plain : Plain selection) (compiled : q.selectWith selection limit = .ok text) :
    ∃ filled, (q.tagged tag).selectWith selection limit = .ok filled ∧ Reads text (q.params.map tag) filled := by
  unfold selectWith at compiled ⊢
  cases conditions : q.whereParts with
  | error misuse => rw [conditions] at compiled; cases compiled
  | ok parts =>
    rw [conditions] at compiled
    cases compiled
    obtain ⟨filled, compiled, reads⟩ := whereParts_reads tag aligned conditions
    rw [compiled]
    refine ⟨_, rfl, ReadsEach.intercalate (by decide) ?_⟩
    have head : ∀ part ∈ ("SELECT " ++ selection ++ " FROM " ++ q.table.display) :: q.joins, Plain part := by
      intro part member
      rcases List.mem_cons.mp member with rfl | join
      · exact plain_append (plain_append (plain_append (by decide) plain) (by decide)) aligned.table
      · exact aligned.joins part join
    have whole := ((((ReadsEach.plain head).append reads).append (.plain aligned.order)).append
      (.plain (countPart_plain (by decide : Plain "LIMIT") limit))).append
      (.plain (countPart_plain (by decide : Plain "OFFSET") q.offset))
    simpa [tagged] using whole

/-- A change reads like its beginning, followed by the condition. -/
theorem restricted_reads {operation sql filled : String} {values : List Value} {prepared : Prepared}
    (aligned : q.Aligned) (reads : Reads sql (values.map tag) filled)
    (compiled : q.restricted operation sql values = .ok prepared) :
    ∃ whole, ((q.tagged tag).restricted operation filled []).map Prepared.sql = .ok whole ∧
      Reads prepared.sql (prepared.params.map tag) whole := by
  unfold restricted at compiled ⊢
  have same : (q.tagged tag).predicates.isEmpty = q.predicates.isEmpty := by simp [tagged]
  rw [same]
  split at compiled
  next bare =>
    cases compiled
    rw [if_pos bare]
    exact ⟨_, rfl, reads⟩
  next some =>
    rw [if_neg some]
    cases condition : q.whereClause with
    | error misuse => rw [condition] at compiled; cases compiled
    | ok text =>
      rw [condition] at compiled
      cases compiled
      obtain ⟨tail, compiled, readsTail⟩ := whereClause_reads tag aligned condition
      rw [compiled]
      refine ⟨_, rfl, ?_⟩
      rw [List.map_append]
      simpa using (reads.append (.plain (by decide : Plain " "))).append readsTail

theorem insertStatement_reads {row : Value} {prepared : Prepared} (aligned : q.Aligned)
    (plain : (Terminal.insert row).Aligned) (compiled : q.insertStatement row = .ok prepared) :
    ∃ filled, q.spelled tag (.insert row) = .ok filled ∧
      Reads prepared.sql (prepared.params.map tag) filled := by
  obtain ⟨entries, columns, rfl, joined, rfl⟩ := insertStatement_eq_ok compiled
  refine ⟨_, by rw [spelled, joined]; rfl, ?_⟩
  obtain ⟨-, rfl⟩ := Value.joinTexts_eq_ok.mp joined
  have names : Plain (", ".intercalate ((entries.map Prod.fst).map Value.word)) := by
    refine plain_intercalate (by decide) fun word member => ?_
    simp only [List.map_map, List.mem_map, Function.comp_apply] at member
    obtain ⟨entry, inside, rfl⟩ := member
    exact Value.plain_word (plain entry inside)
  have opening := plain_append (plain_append (plain_append (plain_append (by decide : Plain "INSERT INTO ")
    aligned.table) (by decide : Plain " (")) names) (by decide : Plain ") VALUES (")
  -- One placeholder for each entry, and each stands for the value of its own entry.
  have each := ReadsEach.map_single fun (entry : Value × Value) (_ : entry ∈ entries) => Reads.hole (tag entry.2)
  have marks := ((Reads.plain opening).append (each.intercalate (by decide : Plain ", "))).append
    (.plain (by decide : Plain ")"))
  simpa [Dialect.placeholders, List.map_const', Function.comp_def] using marks

theorem updateStatement_reads {row : Value} {prepared : Prepared} (aligned : q.Aligned)
    (plain : (Terminal.update row).Aligned) (compiled : q.updateStatement row = .ok prepared) :
    ∃ filled, q.spelled tag (.update row) = .ok filled ∧
      Reads prepared.sql (prepared.params.map tag) filled := by
  obtain ⟨entries, rfl, restricted⟩ := updateStatement_eq_ok compiled
  refine restricted_reads tag aligned ?_ restricted
  have opening := plain_append (plain_append (by decide : Plain "UPDATE ") aligned.table)
    (by decide : Plain " SET ")
  have each := ReadsEach.map_single fun (entry : Value × Value) (member : entry ∈ entries) =>
    (Reads.plain (plain entry member)).append
      ((Reads.plain (by decide : Plain " = ")).append (.hole (tag entry.2)))
  have whole := (Reads.plain opening).append (each.intercalate (by decide : Plain ", "))
  simpa [String.append_assoc, Function.comp_def] using whole

/-- A compiled select statement goes with the values of the predicates. -/
theorem prepare_select_reads {selection : String} {limit : Option Nat} {prepared : Prepared} (aligned : q.Aligned)
    (plain : Plain selection)
    (compiled : (do return { sql := ← Misuse.lift (q.selectWith selection limit), params := q.params } :
      Except Fault Prepared) = .ok prepared) :
    ∃ filled, (do return { sql := ← Misuse.lift ((q.tagged tag).selectWith selection limit),
                           params := (q.tagged tag).params } : Except Fault Prepared).map Prepared.sql = .ok filled ∧
      Reads prepared.sql (prepared.params.map tag) filled := by
  cases selected : q.selectWith selection limit with
  | error misuse => rw [selected] at compiled; cases compiled
  | ok text =>
    rw [selected] at compiled
    cases compiled
    obtain ⟨filled, selected, reads⟩ := selectWith_reads tag aligned plain selected
    rw [selected]
    exact ⟨filled, rfl, reads⟩

/-- Whatever a query ends in, the statement reads like the one that is compiled after the values were
written where they were given. -/
theorem prepare_reads {terminal : Terminal} {prepared : Prepared} (aligned : q.Aligned)
    (plain : terminal.Aligned) (compiled : q.prepare terminal = .ok prepared) :
    ∃ filled, q.spelled tag terminal = .ok filled ∧ Reads prepared.sql (prepared.params.map tag) filled := by
  have counted : Plain countSelection := by decide
  cases terminal with
  | get => exact prepare_select_reads tag aligned aligned.selection compiled
  | first => exact prepare_select_reads tag aligned aligned.selection compiled
  | «exists» => exact prepare_select_reads tag aligned counted compiled
  | insert row => exact insertStatement_reads tag aligned plain compiled
  | update row => exact updateStatement_reads tag aligned plain compiled
  | delete =>
    refine restricted_reads tag aligned ?_ compiled
    exact .plain (plain_append (by decide) aligned.table)

/-- The statement that ending a query leads to is sent once, or there is a failure before that. -/
theorem finish_executions (db : Database σ) {terminal : Terminal} {prepared : Prepared}
    (compiled : q.prepare terminal = .ok prepared) (s : Session σ) :
    ∃ new, (Action.on (q.finish db terminal) s).2.events = s.events ++ new ∧
      (executions new = [(.text prepared.sql, prepared.params)] ∨
        executions new = [] ∧ ∃ fault, (Action.on (q.finish db terminal) s).1 = .error fault) := by
  obtain ⟨t, same, sent⟩ := send_eq_run db q prepared s
  obtain ⟨new, grown, executed⟩ := run_executions db (.text prepared.sql) prepared.params t
  rw [finish_eq, Action.on_bind, Action.on_ofExcept, compiled]
  dsimp only
  rw [Action.on_bind, sent]
  rcases ran : Action.on (db.run (.text prepared.sql) prepared.params) t with ⟨result, after⟩
  rw [ran, same] at grown
  rw [ran] at executed
  cases result with
  | error fault => exact ⟨new, grown, executed.imp_right fun none => ⟨none.1, fault, rfl⟩⟩
  | ok statement =>
    have once : executions new = [(.text prepared.sql, prepared.params)] := by
      rcases executed with once | ⟨-, fault, failed⟩
      · exact once
      · cases failed
    refine ⟨new, ?_, .inl once⟩
    dsimp only
    rw [on_ended]
    exact grown

end DataLayer.Query
