import DataLayer.Proofs.Database.Course
import DataLayer.Proofs.Text.Placeholder
import DataLayer.Proofs.Value
import DataLayer.Query.Terminal
import Mathlib.Logic.Basic

/-! Placeholders of a statement and the values that travel beside it. A query keeps the fragments of
its predicates and their values apart until a statement is compiled; main statement: in every
statement that is sent, each placeholder meets the value that was given together with it. -/

namespace DataLayer

open DataLayer.Text

variable {σ : Type}

namespace Value

/-- A value whose plain form has no placeholder. -/
def Plain (v : Value) : Prop := Text.Plain v.display

instance (v : Value) : Decidable v.Plain := inferInstanceAs (Decidable (Text.Plain v.display))

/-- The names in a select list: a text as a whole, or one name after the other. -/
def names (v : Value) : List Value :=
  if v.text?.isSome then [v] else v.elements?.getD []

theorem plain_word {v : Value} (plain : v.Plain) : Text.Plain v.word := by
  cases v with
  | text value => exact plain
  | columnType kind => cases kind <;> decide
  | engineKind kind => cases kind <;> decide
  | _ => exact (by decide : Text.Plain "")

end Value

/-- A predicate with the tags of its values in the places of its placeholders. -/
def Predicate.tagged (tag : Value → String) (p : Predicate) : Predicate where
  fragment := match p.fragment.text? with
    | some word => .text (fill word (p.params.map tag))
    | none => p.fragment

/-- The placeholders that a clause brings in are those of its values: fragments with values of their
own have one for each, all other texts have none. -/
def Clause.Aligned : Clause → Prop
  | .select columns => ∀ name ∈ columns.names, name.Plain
  | .join kind table condition => kind.Plain ∧ table.Plain ∧ condition.Plain
  | .fragment sql => sql.Plain
  | .compare column operator _ => column.Plain ∧ operator.Plain
  | .raw sql params => ∀ values, params.elements = .ok values → holes sql.word = values.length
  | .orderBy column _ => column.Plain
  | .limit _ => True
  | .offset _ => True
  | .reset => True

/-- The columns that a row is inserted into or updated in have no placeholder in their names. -/
def Query.Terminal.Aligned : Query.Terminal → Prop
  | .insert (.map entries) => ∀ entry ∈ entries, entry.1.Plain
  | .update (.map entries) => ∀ entry ∈ entries, entry.1.Plain
  | _ => True

namespace Query

/-- Makes changes one after the other, as long as none is refused. -/
def applyAll (q : Query) : List Clause → Except Fault Query
  | [] => .ok q
  | clause :: rest =>
    match q.apply clause with
    | (.ok (), q) => q.applyAll rest
    | (.error fault, _) => .error fault

/-- A query that was just started has its table and nothing else. -/
theorem start_ok {table : Value} {q : Query} (started : start table = .ok q) : q = { table } := by
  unfold start at started
  cases blank : table.isBlankName with
  | error misuse => rw [blank] at started; cases started
  | ok nameless =>
    rw [blank] at started
    cases nameless with
    | true => cases started
    | false => exact (Except.ok.inj started).symm

/-- Each predicate of a query has a placeholder for each of its values, and nothing else in it has
any. -/
structure Aligned (q : Query) : Prop where
  table : q.table.Plain
  selection : q.selection.Plain
  joins : ∀ join ∈ q.joins, Plain join
  predicates : ∀ p ∈ q.predicates, holes p.fragment.word = p.params.length
  order : ∀ order ∈ q.order.toList, Plain order

/-- A query with the tags of its values in the places of their placeholders. -/
def tagged (tag : Value → String) (q : Query) : Query :=
  { q with predicates := q.predicates.map (Predicate.tagged tag) }

/-- The statement that a query ends in when every value is written out by its tag where it was given:
in its own fragment, in the row of values, or behind its column. -/
def spelled (tag : Value → String) (q : Query) : Terminal → Except Fault String
  | .insert (.map entries) => do
    let columns ← Misuse.lift (Value.joinTexts ", " (entries.map Prod.fst))
    return "INSERT INTO " ++ q.table.display ++ " (" ++ columns ++ ") VALUES ("
      ++ ", ".intercalate (entries.map fun entry => tag entry.2) ++ ")"
  | .update (.map entries) =>
    let assignments := entries.map fun entry => entry.1.display ++ " = " ++ tag entry.2
    ((q.tagged tag).restricted "update"
      ("UPDATE " ++ q.table.display ++ " SET " ++ ", ".intercalate assignments) []).map Prepared.sql
  | terminal => ((q.tagged tag).prepare terminal).map Prepared.sql

/-- A value in upper case has a placeholder only where it had one. -/
theorem plain_upperCase {kind word : Value} (plain : kind.Plain) (upper : kind.upperCase = .ok word) :
    word.Plain := by
  unfold Value.upperCase at upper
  split at upper
  next text spelled =>
    have own := Value.plain_word plain
    rw [Value.word, spelled] at own
    rw [← Except.ok.inj upper]
    exact plain_upper own
  next =>
    split at upper
    next row spelled =>
      rw [← Except.ok.inj upper]
      intro mark
      obtain ⟨byte, member, same⟩ := List.mem_map.mp ((mark_quotedBytes _).mp mark)
      have raised : (if 97 ≤ byte && byte ≤ 122 then byte - 32 else byte) = 63 := same
      have own : byte = 63 := by
        split at raised
        next letter =>
          obtain ⟨low, high⟩ : 97 ≤ byte ∧ byte ≤ 122 := by simpa using letter
          grind
        next => exact raised
      exact plain ((mark_quotedBytes row).mpr (own ▸ member))
    next => cases upper

theorem plain_selectionOf {columns selection : Value} (plain : ∀ name ∈ columns.names, name.Plain)
    (selected : selectionOf columns = .ok selection) : selection.Plain := by
  unfold selectionOf at selected
  unfold Value.names at plain
  split at selected
  next word spelled =>
    rw [spelled, Option.isSome_some, if_pos rfl] at plain
    exact Except.ok.inj selected ▸ plain columns (List.mem_singleton.mpr rfl)
  next items spelled yields =>
    rw [spelled, yields] at plain
    cases joined : Value.joinTexts ", " items with
    | error misuse => rw [joined] at selected; cases selected
    | ok text =>
      rw [joined] at selected
      obtain ⟨-, rfl⟩ := Value.joinTexts_eq_ok.mp joined
      rw [← Except.ok.inj selected]
      refine plain_intercalate (by decide) fun word member => ?_
      obtain ⟨item, inside, rfl⟩ := List.mem_map.mp member
      exact Value.plain_word (plain item inside)
  next => cases selected

theorem aligned_withPredicate {q : Query} (aligned : q.Aligned) {fragment : Value} {params : List Value}
    (count : holes fragment.word = params.length) : (q.withPredicate fragment params).Aligned where
  table := aligned.table
  selection := aligned.selection
  joins := aligned.joins
  predicates p member := by
    rcases List.mem_append.mp member with before | last
    · exact aligned.predicates p before
    · rw [List.mem_singleton.mp last]
      exact count
  order := aligned.order

theorem raw_eq_ok {q after : Query} {sql params : Value} (applied : q.raw sql params = (.ok (), after)) :
    ∃ values, params.elements = .ok values ∧ after = q.withPredicate sql values := by
  unfold raw at applied
  cases yields : params.elements with
  | error misuse =>
    simp only [yields] at applied
    rcases ite_eq_iff.mp applied with ⟨-, refused⟩ | ⟨-, refused⟩ <;> cases refused
  | ok values =>
    simp only [yields] at applied
    rcases ite_eq_iff.mp applied with ⟨-, refused⟩ | ⟨-, taken⟩
    · cases refused
    · exact ⟨values, rfl, (Prod.mk.inj taken).2.symm⟩

/-- A clause that is not refused keeps the placeholders and the values of a query together. -/
theorem aligned_apply {q after : Query} {clause : Clause} (aligned : q.Aligned) (plain : clause.Aligned)
    (applied : q.apply clause = (.ok (), after)) : after.Aligned := by
  cases clause with
  | select columns =>
    simp only [apply, select] at applied
    cases selected : selectionOf columns with
    | error misuse => simp [selected] at applied
    | ok selection =>
      have free := plain_selectionOf plain selected
      simp only [selected] at applied
      split at applied
      · cases applied
      · rw [← (Prod.mk.inj applied).2]
        exact { aligned with selection := free }
  | join kind table condition =>
    simp only [apply, join] at applied
    cases upper : kind.upperCase with
    | error misuse => simp [upper] at applied
    | ok word =>
      have free := plain_upperCase plain.1 upper
      simp only [upper] at applied
      rw [← (Prod.mk.inj applied).2]
      refine { aligned with joins := fun join member => ?_ }
      rcases List.mem_append.mp member with before | last
      · exact aligned.joins join before
      · rw [List.mem_singleton.mp last]
        exact plain_append (plain_append (plain_append (plain_append free (by decide)) plain.2.1) (by decide))
          plain.2.2
  | fragment sql =>
    rw [← (Prod.mk.inj applied).2]
    apply aligned_withPredicate aligned
    exact List.count_eq_zero.mpr (Value.plain_word plain)
  | compare column operator value =>
    rw [← (Prod.mk.inj applied).2]
    apply aligned_withPredicate aligned
    have reads := (((Reads.plain plain.1).append (.plain (by decide : Plain " "))).append (.plain plain.2)).append
      ((Reads.plain (by decide : Plain " ")).append (.hole ""))
    simpa [Value.word, Value.text?] using reads.count
  | raw sql params =>
    obtain ⟨values, yields, rfl⟩ := raw_eq_ok applied
    exact aligned_withPredicate aligned (plain values yields)
  | orderBy column direction =>
    simp only [apply, orderBy] at applied
    split at applied
    · cases applied
    · split at applied
      next direction word upper =>
        split at applied
        next known =>
          rw [← (Prod.mk.inj applied).2]
          refine { aligned with order := fun order member => ?_ }
          have directed : ∀ word ∈ directions, Plain word := by decide
          rw [← Option.some.inj (Option.mem_toList.mp member)]
          exact plain_append (plain_append (plain_append (by decide) plain) (by decide))
            (directed word (List.contains_iff_mem.mp known))
        next => cases applied
      next => cases applied
  | limit count =>
    simp only [apply] at applied
    split at applied
    · rw [← (Prod.mk.inj applied).2]
      exact { aligned with }
    · cases applied
  | offset count =>
    simp only [apply] at applied
    split at applied
    · rw [← (Prod.mk.inj applied).2]
      exact { aligned with }
    · cases applied
  | reset =>
    rw [← (Prod.mk.inj applied).2]
    exact ⟨aligned.table, (by decide : Plain "*"), by simp [cleared], by simp [cleared], by simp [cleared]⟩

end Query
end DataLayer
