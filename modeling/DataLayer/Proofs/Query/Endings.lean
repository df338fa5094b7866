import DataLayer.Proofs.Database.Sending
import DataLayer.Proofs.Query.Slots

/-! Ending a query and looking at it only read it. Main statement: whatever ends and looks stand between the clauses
of a query, and in whatever way they go, the query is the one that its clauses alone lead to, and every end compiles
and sends the same statement with the same values. -/

namespace DataLayer

open DataLayer.Action

variable {σ : Type}

namespace Query

/-- The first row is asked for as all rows are under a limit of one, whatever limit was set. -/
theorem prepare_first (q : Query) :
    ∃ limited, q.apply (.limit (.int 1)) = (.ok (), limited) ∧ q.prepare .first = limited.prepare .get :=
  ⟨{ q with limit := some 1 }, rfl, rfl⟩

/-- Whether there is a row is asked for as all counts are under a limit of one, whatever was selected. -/
theorem prepare_exists (q : Query) :
    ∃ counted, q.applyAll [.select (.text "COUNT(*) AS count"), .limit (.int 1)] = .ok counted ∧
      q.prepare .exists = counted.prepare .get :=
  ⟨{ q with selection := .text countSelection, limit := some 1 }, rfl, rfl⟩

end Query

namespace Script.QueryStep

/-- The steps that change the query. All others end it or look at it. -/
def changes (steps : List QueryStep) : List QueryStep := steps.filter fun step => step.clause?.isSome

/-- The answers of the steps that change the query. -/
def changeAnswers (steps : List QueryStep) (answers : List (Except Fault Reply)) : List (Except Fault Reply) :=
  ((steps.zip answers).filter fun answered => answered.1.clause?.isSome).map Prod.snd

/-- A clause answers the same in every session, and does nothing to it. -/
theorem perform_clause {step : QueryStep} {change : Clause} (changes : step.clause? = some change) (db : Database σ)
    (q : Query) (s : Session σ) :
    perform db q step s = (((q.apply change).1.map fun _ => Reply.builder, (q.apply change).2), s) := by
  cases step with
  | clause other =>
    cases changes
    rfl
  | _ => cases changes

theorem perform_unchanged {step : QueryStep} (keeps : step.clause? = none) (db : Database σ) (q : Query)
    (s : Session σ) : (perform db q step s).1.2 = q := by
  rw [perform_query, keeps]

/-- Without the steps that only read it, a query goes through the same clauses, which answer the same. -/
theorem performAll_changes (db : Database σ) (q : Query) (steps : List QueryStep) (s t : Session σ) :
    (performAll db q steps s).1.2 = (performAll db q (changes steps) t).1.2 ∧
      changeAnswers steps (performAll db q steps s).1.1 = (performAll db q (changes steps) t).1.1 := by
  induction steps generalizing q s t with
  | nil => exact ⟨rfl, rfl⟩
  | cons step rest ih =>
    rw [performAll_cons]
    cases changed : step.clause? with
    | none =>
      have spared : changes (step :: rest) = changes rest := List.filter_cons_of_neg (by simp [changed])
      have kept := perform_unchanged changed db q s
      obtain ⟨query, answers⟩ := ih q (perform db q step s).2 t
      rw [spared]
      dsimp only
      rw [kept]
      exact ⟨query, by simpa [changeAnswers, changed] using answers⟩
    | some change =>
      have taken : changes (step :: rest) = step :: changes rest := List.filter_cons_of_pos (by simp [changed])
      obtain ⟨query, answers⟩ := ih (q.apply change).2 s t
      rw [taken, performAll_cons, perform_clause changed, perform_clause changed]
      exact ⟨query, by simpa [changeAnswers, changed] using answers⟩

theorem performAll_unchanged (db : Database σ) (q : Query) {steps : List QueryStep} (reads : changes steps = [])
    (s : Session σ) : (performAll db q steps s).1.2 = q := by
  rw [(performAll_changes db q steps s s).1, reads]
  rfl

/-- What the steps that only read a query leave as it is without them. -/
structure Undisturbed (db : Database σ) (mixed bare : (List (Except Fault Reply) × Query) × Session σ)
    (steps : List QueryStep) : Prop where
  query : mixed.1.2 = bare.1.2
  answers : changeAnswers steps mixed.1.1 = bare.1.1
  toSql : mixed.1.2.toSql = bare.1.2.toSql
  prepare : ∀ terminal, mixed.1.2.prepare terminal = bare.1.2.prepare terminal
  /-- Every end sends what the query of the clauses alone compiles to, in either session. -/
  sends : ∀ terminal, let statement := (Access.finish bare.1.2 terminal).statement db
    SendsAs db statement ((Access.finish mixed.1.2 terminal).announced mixed.2) (mixed.1.2.finish db terminal) mixed.2 ∧
      SendsAs db statement ((Access.finish bare.1.2 terminal).announced bare.2) (bare.1.2.finish db terminal) bare.2
  first : ∃ limited, bare.1.2.apply (.limit (.int 1)) = (.ok (), limited) ∧
    mixed.1.2.prepare .first = limited.prepare .get
  «exists» : ∃ counted, bare.1.2.applyAll [.select (.text "COUNT(*) AS count"), .limit (.int 1)] = .ok counted ∧
    mixed.1.2.prepare .exists = counted.prepare .get
  /-- The select list and the limit that were set still hold after any further ends and looks. -/
  later : ∀ looks, changes looks = [] → ∀ s : Session σ,
    (performAll db mixed.1.2 looks s).1.2.prepare .get =
      (Misuse.lift (bare.1.2.selectWith bare.1.2.selection.display bare.1.2.limit)).map fun sql =>
        { sql, params := bare.1.2.params }

/-- Ends and looks, at whatever places between the clauses of a query and in whatever way they go, change nothing
for the query, for its clauses and for the other ends. -/
theorem performAll_undisturbed (db : Database σ) (q : Query) (steps : List QueryStep) (s t : Session σ) :
    Undisturbed db (performAll db q steps s) (performAll db q (changes steps) t) steps := by
  obtain ⟨query, answers⟩ := performAll_changes db q steps s t
  generalize performAll db q steps s = mixed at query answers ⊢
  generalize performAll db q (changes steps) t = bare at query answers ⊢
  refine ⟨query, answers, by rw [query], fun terminal => by rw [query], fun terminal => ⟨?_, ?_⟩, ?_, ?_, ?_⟩
  · rw [query]
    exact Access.finish_sends db bare.1.2 terminal mixed.2
  · exact Access.finish_sends db bare.1.2 terminal bare.2
  · rw [query]
    exact bare.1.2.prepare_first
  · rw [query]
    exact bare.1.2.prepare_exists
  · intro looks reads u
    rw [query, performAll_unchanged db bare.1.2 reads u]
    change (Misuse.lift bare.1.2.selectStatement >>= _ : Except Fault Prepared) = _
    unfold Query.selectStatement
    cases bare.1.2.selectWith bare.1.2.selection.display bare.1.2.limit <;> rfl

end Script.QueryStep
end DataLayer
