import DataLayer.Proofs.Query.Confinement
import Mathlib.Logic.Basic

/-! Clauses that are refused. Most of them are looked at before they are taken in; main statement: they leave
no trace, neither in the query nor in anything that is done with it later. A blank select list and a condition
whose values cannot be taken one by one are taken in first, and stay. -/

namespace DataLayer

open DataLayer.Action

variable {σ : Type} {db : Database σ}

/-- Holds of a clause that is taken in before it is found to be none. -/
def Clause.isHasty : Clause → Bool
  | .select columns =>
    match Query.selectionOf columns with
    | .ok selection => Query.isBlankSelection selection
    | .error _ => false
  | .raw _ params => params.elements?.isNone
  | _ => false

namespace Query

variable {q after : Query} {clause : Clause} {fault : Fault}

/-- What a query is once a hasty clause was taken in. -/
def taking (q : Query) : Clause → Query
  | .select columns =>
    match selectionOf columns with
    | .ok selection => { q with selection }
    | .error _ => q
  | .raw sql _ => q.withPredicate sql []
  | _ => q

theorem select_refused {columns : Value} (refused : q.select columns = (.error fault, after)) :
    after = if (Clause.select columns).isHasty then q.taking (.select columns) else q := by
  unfold select at refused
  cases selected : selectionOf columns with
  | error misuse =>
    simp only [selected] at refused
    simp only [Clause.isHasty, selected]
    exact (Prod.mk.inj refused).2.symm
  | ok selection =>
    simp only [selected] at refused
    simp only [Clause.isHasty, taking, selected]
    split at refused
    next blank =>
      rw [if_pos blank]
      exact (Prod.mk.inj refused).2.symm
    next => cases refused

theorem raw_refused {sql params : Value} (refused : q.raw sql params = (.error fault, after)) :
    after = if (Clause.raw sql params).isHasty then q.taking (.raw sql params) else q := by
  unfold raw at refused
  dsimp only at refused
  cases yields : params.elements? with
  | none =>
    simp only [Value.elements, yields] at refused
    simp only [Clause.isHasty, taking, yields, Option.isNone_none, ↓reduceIte]
    rcases ite_eq_iff.mp refused with ⟨text, -⟩ | ⟨-, ended⟩
    · -- Bytes, and all that is or stands in for a text, can be taken one by one.
      cases params <;> simp [Value.elements?, Value.text?] at yields text
    · exact (Prod.mk.inj ended).2.symm
  | some values =>
    simp only [Value.elements, yields] at refused
    simp only [Clause.isHasty, yields, Option.isNone_some, Bool.false_eq_true, ↓reduceIte]
    rcases ite_eq_iff.mp refused with ⟨-, ended⟩ | ⟨-, ended⟩
    · exact (Prod.mk.inj ended).2.symm
    · cases ended

/-- A clause that is refused leaves the query as it was, or with all of a hasty clause taken in. -/
theorem apply_refused (refused : q.apply clause = (.error fault, after)) :
    after = if clause.isHasty then q.taking clause else q := by
  cases clause with
  | select columns => exact select_refused refused
  | raw sql params => exact raw_refused refused
  | join kind table condition =>
    simp only [apply, join] at refused
    split at refused
    · exact (Prod.mk.inj refused).2.symm
    · cases refused
  | orderBy column direction =>
    simp only [apply, orderBy] at refused
    split at refused
    · exact (Prod.mk.inj refused).2.symm
    · split at refused
      · split at refused
        · cases refused
        · exact (Prod.mk.inj refused).2.symm
      · exact (Prod.mk.inj refused).2.symm
  | limit count =>
    simp only [apply] at refused
    split at refused
    · cases refused
    · exact (Prod.mk.inj refused).2.symm
  | offset count =>
    simp only [apply] at refused
    split at refused
    · cases refused
    · exact (Prod.mk.inj refused).2.symm
  | fragment sql => cases refused
  | compare column operator value => cases refused
  | reset => cases refused

end Query

namespace Script.QueryStep

theorem performAll_cons (db : Database σ) (q : Query) (step : QueryStep) (rest : List QueryStep) (s : Session σ) :
    performAll db q (step :: rest) s =
      let one := perform db q step s
      let later := performAll db one.1.2 rest one.2
      ((one.1.1 :: later.1.1, later.1.2), later.2) := rfl

/-- Steps in a row are the first of them, and then the others. -/
theorem performAll_append (db : Database σ) (q : Query) (steps more : List QueryStep) (s : Session σ) :
    performAll db q (steps ++ more) s =
      let first := performAll db q steps s
      let later := performAll db first.1.2 more first.2
      ((first.1.1 ++ later.1.1, later.1.2), later.2) := by
  induction steps generalizing q s with
  | nil => rfl
  | cons step rest ih =>
    rw [List.cons_append, performAll_cons, performAll_cons]
    dsimp only
    rw [ih]
    rfl

theorem length_performAll (db : Database σ) (q : Query) (steps : List QueryStep) (s : Session σ) :
    (performAll db q steps s).1.1.length = steps.length := by
  induction steps generalizing q s with
  | nil => rfl
  | cons step rest ih => exact congrArg Nat.succ (ih _ _)

/-- A refused clause answers with its fault; the session does not notice it. -/
theorem perform_refused {q after : Query} {clause : Clause} {fault : Fault}
    (refused : q.apply clause = (.error fault, after)) (db : Database σ) (s : Session σ) :
    perform db q (.clause clause) s = ((.error fault, after), s) := by
  change (((q.apply clause).1.map fun _ => Reply.builder, (q.apply clause).2), s) = _
  rw [refused]
  rfl

/-- A clause that is refused changes nothing unless it is a hasty one, which stays. What changes nothing only
gives its answer: whatever is done before and after it, the query, the session and all other answers are those
of the steps without it. -/
theorem performAll_refused (db : Database σ) {q : Query} {before : List QueryStep} {clause : Clause} {fault : Fault}
    {s : Session σ} (refused : ((performAll db q before s).1.2.apply clause).1 = .error fault) (rest : List QueryStep) :
    let reached := (performAll db q before s).1.2
    let spared := performAll db q (before ++ rest) s
    let tried := performAll db q (before ++ .clause clause :: rest) s
    (reached.apply clause).2 = (if clause.isHasty then reached.taking clause else reached) ∧
      (clause.isHasty = false → tried.1.2 = spared.1.2 ∧ tried.2 = spared.2 ∧
        ∃ first later, spared.1.1 = first ++ later ∧ tried.1.1 = first ++ .error fault :: later ∧
          first.length = before.length) := by
  intro reached spared tried
  rcases start : performAll db q before s with ⟨⟨answers, r⟩, t⟩
  obtain rfl : reached = r := by simp only [reached, start]
  rcases applied : reached.apply clause with ⟨result, after⟩
  obtain rfl : result = .error fault := by rw [← refused, applied]
  have left := Query.apply_refused applied
  refine ⟨left, fun careful => ?_⟩
  rw [careful, if_neg Bool.false_ne_true] at left
  rw [left] at applied
  have answered : answers.length = before.length := by
    rw [← length_performAll db q before s, start]
  rcases later : performAll db reached rest t with ⟨⟨others, last⟩, final⟩
  have without : spared = ((answers ++ others, last), final) := by
    simp only [spared, performAll_append, start, later]
  have within : tried = ((answers ++ .error fault :: others, last), final) := by
    simp only [tried, performAll_append, performAll_cons, start, perform_refused applied, later]
  rw [without, within]
  exact ⟨rfl, rfl, answers, others, rfl, rfl, answered⟩

/-- A limit below zero between a predicate and the end of a query. -/
theorem performAll_refused_limit :
    let db : Database Scripted.Engine :=
      { kind := .sqlite, config := {}, now := ⟨⟨2025, 1, 1⟩, ⟨0, 0, 0, 0, none⟩⟩, driver := Scripted.driver }
    let s : Session Scripted.Engine := { engine := { script := [{ columns := ["a"], rows := [[.int 1]] }] } }
    let q : Query := { table := .text "t" }
    let before : List QueryStep := [.clause (.compare (.text "a") (.text ">") (.int 0)), .clause (.limit (.int 5))]
    let negative : Clause := .limit (.int (-1))
    let rest : List QueryStep := [.toSql, .terminal .get]
    let reached := (performAll db q before s).1.2
    let spared := performAll db q (before ++ rest) s
    let tried := performAll db q (before ++ .clause negative :: rest) s
    ∃ fault, (reached.apply negative).1 = .error fault ∧ negative.isHasty = false ∧
      (reached.apply negative).2 = reached ∧ tried.1.2 = spared.1.2 ∧ tried.2 = spared.2 ∧
        ∃ first later, spared.1.1 = first ++ later ∧ tried.1.1 = first ++ .error fault :: later ∧
          first.length = before.length := by
  intro db s q before negative rest
  have always (r : Query) : ∃ fault, (r.apply negative).1 = .error fault := ⟨_, rfl⟩
  have careful : negative.isHasty = false := rfl
  -- What the steps come to is not needed.
  clear_value db s
  obtain ⟨fault, turned⟩ := always (performAll db q before s).1.2
  have refused := performAll_refused db turned rest
  exact ⟨fault, turned, careful, refused.1, refused.2 careful⟩

/-- A blank select list stays where it was refused, and so does a condition without a row of values. -/
theorem hasty_clauses_stay :
    let q : Query := { table := .text "t" }
    let blank := q.apply (.select (.text " "))
    let bare := q.apply (.raw (.text "a = ?") (.int 1))
    (∃ fault, blank.1 = .error fault) ∧ blank.2.toSql ≠ q.toSql ∧
      (∃ fault, bare.1 = .error fault) ∧ bare.2.toSql ≠ q.toSql ∧ bare.2.summary ≠ q.summary := by
  intro q blank bare
  have plain : q.toSql = .ok ("SELECT * FROM t", []) := rfl
  have first : blank.2.toSql = .ok ("SELECT   FROM t", []) := rfl
  have second : bare.2.toSql = .ok ("SELECT * FROM t WHERE a = ?", []) := rfl
  refine ⟨⟨_, rfl⟩, ?_, ⟨_, rfl⟩, ?_, by decide +kernel⟩
  · rw [first, plain]
    simp
  · rw [second, plain]
    simp

end Script.QueryStep
end DataLayer
