import Mathlib.Data.List.Chain
import DataLayer.Proofs.Query.Separation

/-! The clause structure of select statements. What a grammar lets stand behind a clause is said once, for any two
clauses. Main statement: the statements of a query keep to the grammar, whatever clauses it was built from, except that
an offset needs a limit, which nothing but the first row and the count of rows always has. -/

namespace DataLayer

open DataLayer.Action DataLayer.Text

variable {σ : Type}

namespace Value

/-- Holds of values that are or stand in for a text which is not blank. -/
def isFilled (value : Value) : Bool :=
  match value.text? with
  | some word => !isBlankText word
  | none => false

variable {value : Value}

theorem word_filled (filled : value.isFilled = true) : value.text?.isSome ∧ isBlankText value.word = false := by
  unfold isFilled at filled
  cases spelled : value.text? with
  | none =>
    rw [spelled] at filled
    cases filled
  | some word => simpa [spelled, Value.word] using filled

theorem display_filled (filled : value.isFilled = true) : isBlankText value.display = false := by
  cases value with
  | text word => exact (word_filled filled).2
  | columnType member => cases member <;> decide
  | engineKind member => cases member <;> decide
  | _ => cases filled

theorem upperCase_filled (filled : value.isFilled = true) :
    ∃ word, value.upperCase = .ok (.text word) ∧ isBlankText word = false := by
  obtain ⟨spelled, solid⟩ := word_filled filled
  obtain ⟨word, known⟩ := Option.isSome_iff_exists.mp spelled
  refine ⟨upper value.word, ?_, isBlankText_upper solid⟩
  unfold upperCase
  rw [Value.word, known]
  rfl

end Value

/-- Holds of clauses whose texts are not blank. Select lists, directions and counts are looked at when a clause is
made, and values may be anything. -/
def Clause.isFilled : Clause → Bool
  | .join kind table condition => kind.isFilled && table.isFilled && condition.isFilled
  | .fragment sql => sql.isFilled
  | .compare column operator _ => column.isFilled && operator.isFilled
  | .raw sql _ => sql.isFilled
  | .orderBy column _ => column.isFilled
  | _ => true

namespace Query

/-- The two ways to order rows. -/
inductive Direction where
  | ascending
  | descending

def Direction.word : Direction → String
  | .ascending => "ASC"
  | .descending => "DESC"

/-- A join from its texts. -/
structure JoinForm where
  kind : String
  table : String
  condition : String

/-- A part of a select statement: what is selected from which table, or one of its clauses. -/
inductive Part where
  | head (list table : String)
  | join (join : JoinForm)
  | filter (conditions : List String)
  | order (column : String) (direction : Direction)
  | limit (count : Nat)
  | offset (count : Nat)

namespace Part

/-- A part as it is written. -/
def text : Part → String
  | .head list table => "SELECT " ++ list ++ " FROM " ++ table
  | .join j => j.kind ++ " JOIN " ++ j.table ++ " ON " ++ j.condition
  | .filter conditions => "WHERE " ++ " AND ".intercalate conditions
  | .order column direction => "ORDER BY " ++ column ++ " " ++ direction.word
  | .limit count => "LIMIT " ++ decimal count
  | .offset count => "OFFSET " ++ decimal count

/-- The place of a part among the others. -/
def rank : Part → Nat
  | .head _ _ => 0
  | .join _ => 1
  | .filter _ => 2
  | .order _ _ => 3
  | .limit _ => 4
  | .offset _ => 5

/-- Holds of two parts that may stand one behind the other: only joins repeat, and an offset stands behind a limit. -/
def Precedes (part next : Part) : Prop :=
  (part.rank < next.rank ∨ part.rank = 1 ∧ next.rank = 1) ∧ (next.rank = 5 → part.rank = 4)

/-- Holds of parts none of whose texts is blank. -/
def Filled : Part → Prop
  | .head list table => isBlankText list = false ∧ isBlankText table = false
  | .join j => isBlankText j.kind = false ∧ isBlankText j.table = false ∧ isBlankText j.condition = false
  | .filter conditions => conditions ≠ [] ∧ ∀ condition ∈ conditions, isBlankText condition = false
  | .order column _ => isBlankText column = false
  | _ => True

end Part

/-- Holds of rows of parts that make a statement. -/
structure Grammatical (parts : List Part) : Prop where
  begins : ∃ list table, parts.head? = some (.head list table)
  follows : parts.IsChain Part.Precedes
  filled : ∀ part ∈ parts, part.Filled

/-- What a select statement is made of. -/
structure SelectForm where
  list : String := "*"
  table : String
  joins : List JoinForm := []
  conditions : List String := []
  order : Option (String × Direction) := none
  limit : Option Nat := none
  offset : Option Nat := none

namespace SelectForm

/-- The clauses behind the joins. -/
def clauses (form : SelectForm) : List Part :=
  (if form.conditions.isEmpty then [] else [.filter form.conditions]) ++
    form.order.toList.map (fun (column, direction) => .order column direction) ++
    form.limit.toList.map .limit ++ form.offset.toList.map .offset

/-- The parts of a statement in order. -/
def parts (form : SelectForm) : List Part :=
  .head form.list form.table :: form.joins.map .join ++ form.clauses

/-- A statement as it is written. -/
def text (form : SelectForm) : String := " ".intercalate (form.parts.map Part.text)

/-- The statement for the first row alone. -/
def firstOnly (form : SelectForm) : SelectForm := { form with limit := some 1 }

/-- The statement that counts the rows. -/
def counting (form : SelectForm) : SelectForm := { form with list := countSelection, limit := some 1 }

/-- Holds of forms none of whose texts is blank. -/
structure Filled (form : SelectForm) : Prop where
  list : isBlankText form.list = false
  table : isBlankText form.table = false
  joins : ∀ j ∈ form.joins, (Part.join j).Filled
  conditions : ∀ condition ∈ form.conditions, isBlankText condition = false
  order : ∀ column direction, form.order = some (column, direction) → isBlankText column = false

/-- Holds when a query is made of the same as a form. -/
structure Spells (form : SelectForm) (q : Query) : Prop where
  table : q.table.display = form.table
  list : q.selection.display = form.list
  joins : q.joins = form.joins.map fun j => (Part.join j).text
  texts : ∀ predicate ∈ q.predicates, predicate.fragment.text?.isSome
  conditions : (q.predicates.map fun predicate => predicate.fragment.word) = form.conditions
  order : q.order = form.order.map fun (column, direction) => (Part.order column direction).text
  limit : q.limit = form.limit
  offset : q.offset = form.offset

variable {form : SelectForm} {q : Query}

section Grammar

/-- Joins may stand behind a head and behind each other, and all of these before the other clauses. -/
theorem joins_follow (joins : List JoinForm) {part : Part} (first : part.rank ≤ 1) :
    (part :: joins.map .join).IsChain Part.Precedes ∧
      ∀ last ∈ (part :: joins.map .join).getLast?, last.rank ≤ 1 := by
  induction joins generalizing part with
  | nil => exact ⟨List.isChain_singleton part, by simpa using first⟩
  | cons j rest ih =>
    have behind : (Part.join j).rank ≤ 1 := Nat.le_refl 1
    obtain ⟨chain, ends⟩ := ih behind
    refine ⟨List.isChain_cons_cons.mpr ⟨⟨?_, nofun⟩, chain⟩, by simpa using ends⟩
    change part.rank < 1 ∨ part.rank = 1 ∧ 1 = 1
    omega

/-- Behind a part of a low rank, the clauses may stand as they do exactly when there is a limit for an offset. -/
theorem clauses_follow (form : SelectForm) {last : Part} (low : last.rank ≤ 1) :
    (form.clauses.IsChain Part.Precedes ∧ ∀ next ∈ form.clauses.head?, last.Precedes next) ↔
      (form.offset.isSome → form.limit.isSome) := by
  obtain ⟨list, table, joins, conditions, order, limit, offset⟩ := form
  -- Which clauses there are decides which stand next to each other.
  cases conditions <;> cases order <;> cases limit <;> cases offset <;>
    simp [clauses, Part.Precedes, Part.rank.eq_3, Part.rank.eq_4, Part.rank.eq_5, Part.rank.eq_6] <;> omega

theorem Filled.parts (filled : form.Filled) : ∀ part ∈ form.parts, part.Filled := by
  intro part member
  simp only [SelectForm.parts, clauses, List.mem_append, List.mem_cons, List.mem_map, Option.mem_toList] at member
  rcases member with (rfl | ⟨j, joined, rfl⟩) |
    (((filters | ⟨⟨column, direction⟩, ordered, rfl⟩) | ⟨count, -, rfl⟩) | ⟨count, -, rfl⟩)
  · exact ⟨filled.list, filled.table⟩
  · exact filled.joins j joined
  · split at filters
    · cases filters
    · next some =>
      obtain rfl := List.mem_singleton.mp filters
      exact ⟨by simpa using some, filled.conditions⟩
  · exact filled.order column direction ordered
  · trivial
  · trivial

/-- Each part of a form may stand behind the one before exactly when there is a limit for an offset. -/
theorem follows_iff (form : SelectForm) :
    form.parts.IsChain Part.Precedes ↔ (form.offset.isSome → form.limit.isSome) := by
  have first : (Part.head form.list form.table).rank ≤ 1 := Nat.zero_le 1
  obtain ⟨chain, ends⟩ := joins_follow form.joins first
  obtain ⟨last, final⟩ : ∃ last, (Part.head form.list form.table :: form.joins.map .join).getLast? = some last :=
    Option.isSome_iff_exists.mp (by simp)
  rw [← clauses_follow form (ends last final), parts, List.isChain_append]
  simp [chain, final]

/-- A form that is not blank anywhere makes a statement exactly when there is a limit for an offset. -/
theorem grammatical_iff (filled : form.Filled) :
    Grammatical form.parts ↔ (form.offset.isSome → form.limit.isSome) :=
  ⟨fun grammatical => form.follows_iff.mp grammatical.follows,
    fun limited => ⟨⟨_, _, rfl⟩, form.follows_iff.mpr limited, filled.parts⟩⟩

theorem grammatical_firstOnly (filled : form.Filled) : Grammatical form.firstOnly.parts := by
  have solid : form.firstOnly.Filled := { filled with }
  exact (grammatical_iff solid).mpr fun _ => rfl

theorem grammatical_counting (filled : form.Filled) : Grammatical form.counting.parts := by
  have solid : form.counting.Filled := { filled with list := (by decide : isBlankText countSelection = false) }
  exact (grammatical_iff solid).mpr fun _ => rfl

end Grammar

section Texts

variable {after : Query}

theorem isBlankText_append (first second : String) :
    isBlankText (first ++ second) = (isBlankText first && isBlankText second) := by
  unfold isBlankText
  rw [String.toList_append, List.all_append]

/-- A table with nothing else said. -/
theorem spells_bare {name : Value} {table : String} (named : name.display = table) :
    SelectForm.Spells { table } { table := name } where
  table := named
  list := rfl
  joins := rfl
  texts := nofun
  conditions := rfl
  order := rfl
  limit := rfl
  offset := rfl

theorem filled_bare {table : String} (some : isBlankText table = false) : SelectForm.Filled { table } where
  list := (by decide : isBlankText "*" = false)
  table := some
  joins := nofun
  conditions := nofun
  order := nofun

theorem exists_direction {word : String} (known : word ∈ directions) :
    ∃ direction : Direction, direction.word = word := by
  simp only [directions, List.mem_cons, List.not_mem_nil, or_false] at known
  rcases known with rfl | rfl
  · exact ⟨.ascending, rfl⟩
  · exact ⟨.descending, rfl⟩

theorem Spells.whereParts (spells : form.Spells q) :
    q.whereParts = .ok (if form.conditions.isEmpty then [] else [(Part.filter form.conditions).text]) := by
  have empty : q.predicates.isEmpty = form.conditions.isEmpty := by
    rw [← spells.conditions, List.isEmpty_map]
  have joined : Value.joinTexts " AND " (q.predicates.map Predicate.fragment) =
      .ok (" AND ".intercalate form.conditions) := by
    rw [Value.joinTexts_eq_ok, List.forall_mem_map, List.map_map, ← spells.conditions]
    exact ⟨spells.texts, rfl⟩
  unfold Query.whereParts whereClause
  rw [empty, joined]
  cases form.conditions.isEmpty <;> rfl

theorem countPart_text (keyword : String) (part : Nat → Part) (count : Option Nat)
    (written : ∀ n, (part n).text = keyword ++ " " ++ decimal n) :
    countPart keyword count = (count.toList.map part).map Part.text := by
  cases count with
  | none => rfl
  | some n => exact congrArg (fun text => [text]) (written n).symm

/-- The statement of a query is that of its form, with whatever select list and limit. -/
theorem Spells.selectWith (spells : form.Spells q) (list : String) (limit : Option Nat) :
    q.selectWith list limit = .ok { form with list, limit }.text := by
  have limited := countPart_text "LIMIT" .limit limit fun n => rfl
  have behind := countPart_text "OFFSET" .offset form.offset fun n => rfl
  have ordered : (form.order.map fun (column, direction) => (Part.order column direction).text).toList =
      (form.order.toList.map fun (column, direction) => Part.order column direction).map Part.text := by
    cases form.order <;> rfl
  have filtered : (if form.conditions.isEmpty then [] else [(Part.filter form.conditions).text]) =
      (if form.conditions.isEmpty then [] else [Part.filter form.conditions]).map Part.text := by
    cases form.conditions.isEmpty <;> rfl
  unfold Query.selectWith
  rw [spells.whereParts, spells.table, spells.joins, spells.order, spells.offset, limited, behind, ordered, filtered]
  simp only [text, parts, clauses, List.map_append, List.map_cons, List.map_map, List.append_assoc, List.cons_append]
  rfl

theorem Spells.selectStatement (spells : form.Spells q) : q.selectStatement = .ok form.text := by
  rw [Query.selectStatement, spells.list, spells.limit]
  exact spells.selectWith form.list form.limit

/-- What is selected is never blank. -/
theorem selection_filled {columns selection : Value} (selected : selectionOf columns = .ok selection)
    (some : isBlankSelection selection = false) : isBlankText selection.display = false := by
  unfold selectionOf at selected
  split at selected
  next word spelled =>
    cases selected
    refine Value.display_filled ?_
    unfold isBlankSelection at some
    unfold Value.isFilled
    rw [spelled] at some ⊢
    simpa using some
  next items unspelled listed =>
    cases joined : Value.joinTexts ", " items with
    | error misuse =>
      rw [joined] at selected
      cases selected
    | ok text =>
      rw [joined] at selected
      cases selected
      exact some
  next => cases selected

theorem select_filled {columns : Value} (applied : q.select columns = (.ok (), after)) :
    ∃ selection : Value, after = { q with selection } ∧ isBlankText selection.display = false := by
  unfold select at applied
  split at applied
  next => cases applied
  next selection selected =>
    dsimp only at applied
    split at applied
    next => cases applied
    next some =>
      exact ⟨selection, (Prod.mk.inj applied).2.symm, selection_filled selected (Bool.not_eq_true _ ▸ some)⟩

/-- The form with one more condition. -/
def withCondition (form : SelectForm) (condition : String) : SelectForm :=
  { form with conditions := form.conditions ++ [condition] }

theorem Spells.withCondition (spells : form.Spells q) {fragment : Value} (named : fragment.text?.isSome)
    (values : List Value) : (form.withCondition fragment.word).Spells (q.withPredicate fragment values) :=
  { spells with
    texts := List.forall_mem_append.mpr ⟨spells.texts, List.forall_mem_singleton.mpr named⟩
    conditions := by simp [SelectForm.withCondition, Query.withPredicate, spells.conditions] }

theorem Filled.withCondition (filled : form.Filled) {condition : String} (some : isBlankText condition = false) :
    (form.withCondition condition).Filled :=
  { filled with conditions := List.forall_mem_append.mpr ⟨filled.conditions, List.forall_mem_singleton.mpr some⟩ }

/-- A clause that is made of texts which are not blank leads from a form to a form. -/
theorem apply_spells (spells : form.Spells q) (filled : form.Filled) {clause : Clause} (given : clause.isFilled = true)
    (applied : q.apply clause = (.ok (), after)) :
    ∃ changed : SelectForm, changed.table = form.table ∧ changed.Spells after ∧ changed.Filled := by
  cases clause with
  | select columns =>
    obtain ⟨selection, rfl, some⟩ := select_filled applied
    exact ⟨{ form with list := selection.display }, rfl, { spells with list := rfl }, { filled with list := some }⟩
  | join kind table condition =>
    simp only [Clause.isFilled, Bool.and_eq_true] at given
    obtain ⟨⟨spelled, named⟩, bound⟩ := given
    obtain ⟨word, raised, some⟩ := Value.upperCase_filled spelled
    simp only [apply, Query.join, raised] at applied
    cases applied
    let made : JoinForm := ⟨word, table.display, condition.display⟩
    refine ⟨{ form with joins := form.joins ++ [made] }, rfl, { spells with joins := ?_ }, { filled with joins := ?_ }⟩
    · rw [List.map_append, ← spells.joins]
      rfl
    · exact List.forall_mem_append.mpr
        ⟨filled.joins, List.forall_mem_singleton.mpr ⟨some, Value.display_filled named, Value.display_filled bound⟩⟩
  | fragment sql =>
    obtain ⟨named, some⟩ := Value.word_filled given
    cases applied
    exact ⟨form.withCondition sql.word, rfl, spells.withCondition named [], filled.withCondition some⟩
  | compare column operator value =>
    simp only [Clause.isFilled, Bool.and_eq_true] at given
    have named := Value.display_filled given.1
    cases applied
    have some : isBlankText (column.display ++ " " ++ operator.display ++ " ?") = false := by
      simp [isBlankText_append, named]
    exact ⟨form.withCondition _, rfl, spells.withCondition rfl [value], filled.withCondition some⟩
  | raw sql params =>
    obtain ⟨named, some⟩ := Value.word_filled given
    obtain ⟨values, -, rfl⟩ := raw_eq_ok applied
    exact ⟨form.withCondition sql.word, rfl, spells.withCondition named values, filled.withCondition some⟩
  | orderBy column direction =>
    have named := Value.display_filled given
    obtain ⟨word, known, rfl⟩ := orderBy_eq_ok applied
    obtain ⟨direction, rfl⟩ := exists_direction known
    refine ⟨{ form with order := some (column.display, direction) }, rfl, { spells with order := rfl },
      { filled with order := ?_ }⟩
    rintro _ _ ⟨⟩
    exact named
  | limit count =>
    simp only [apply] at applied
    split at applied
    · next n known =>
      cases applied
      exact ⟨{ form with limit := some n }, rfl, { spells with limit := rfl }, { filled with }⟩
    · cases applied
  | offset count =>
    simp only [apply] at applied
    split at applied
    · next n known =>
      cases applied
      exact ⟨{ form with offset := some n }, rfl, { spells with offset := rfl }, { filled with }⟩
    · cases applied
  | reset =>
    cases applied
    exact ⟨{ table := form.table }, rfl, spells_bare spells.table, filled_bare filled.table⟩

theorem applyAll_spells (spells : form.Spells q) (filled : form.Filled) {clauses : List Clause}
    (given : ∀ clause ∈ clauses, clause.isFilled = true) (applied : q.applyAll clauses = .ok after) :
    ∃ changed : SelectForm, changed.table = form.table ∧ changed.Spells after ∧ changed.Filled := by
  induction clauses generalizing form q with
  | nil =>
    cases applied
    exact ⟨form, rfl, spells, filled⟩
  | cons clause rest ih =>
    obtain ⟨one, others⟩ := List.forall_mem_cons.mp given
    unfold applyAll at applied
    split at applied
    · next next known =>
      obtain ⟨between, same, spells, filled⟩ := apply_spells spells filled one known
      obtain ⟨changed, table, spells, filled⟩ := ih spells filled others applied
      exact ⟨changed, table.trans same, spells, filled⟩
    · cases applied

end Texts

end SelectForm
end Query

namespace Script.QueryStep

open Query

/-- On a table, calls that all go well and whose texts are not blank lead to a query that has a form. All of its select
statements are written as the form says, and none of them is blank anywhere. The one for the first row and the one that
counts keep to the grammar; the others do as long as there is a limit where there is an offset. -/
theorem performAll_grammatical (db : Database σ) {table : Value} {fresh : Query}
    (started : Query.start table = .ok fresh) (named : table.isFilled) {steps : List QueryStep}
    (accepted : Accepted fresh steps) (filled : ∀ clause ∈ steps.filterMap clause?, clause.isFilled) (s : Session σ) :
    let q := (performAll db fresh steps s).1.2
    ∃ form : SelectForm, form.table = table.display ∧ form.Spells q ∧
      q.toSql = .ok (form.text, q.params) ∧
      q.prepare .get = .ok { sql := form.text, params := q.params } ∧
      q.prepare .first = .ok { sql := form.firstOnly.text, params := q.params } ∧
      q.prepare .exists = .ok { sql := form.counting.text, params := q.params } ∧
      (Grammatical form.parts ↔ (q.offset.isSome → q.limit.isSome)) ∧
      Grammatical form.firstOnly.parts ∧ Grammatical form.counting.parts := by
  obtain rfl := Query.start_ok started
  unfold Accepted at accepted
  cases applied : ({ table } : Query).applyAll (steps.filterMap clause?) with
  | error fault =>
    rw [applied] at accepted
    cases accepted
  | ok after =>
    rw [performAll_query db applied s]
    obtain ⟨form, same, spells, solid⟩ := SelectForm.applyAll_spells (SelectForm.spells_bare rfl)
      (SelectForm.filled_bare (Value.display_filled named)) filled applied
    have first : after.selectWith after.selection.display (some 1) = .ok form.firstOnly.text := by
      rw [spells.list]
      exact spells.selectWith form.list (some 1)
    have counts := spells.selectWith countSelection (some 1)
    refine ⟨form, same, spells, ?_, ?_, ?_, ?_, ?_, ?_, ?_⟩
    · rw [Query.toSql, spells.selectStatement]
      rfl
    · rw [prepare, spells.selectStatement]
      rfl
    · rw [prepare, first]
      rfl
    · rw [prepare, counts]
      rfl
    · rw [spells.offset, spells.limit]
      exact SelectForm.grammatical_iff solid
    · exact SelectForm.grammatical_firstOnly solid
    · exact SelectForm.grammatical_counting solid

/-- A query with every clause there is. -/
def fullQuery : Query where
  table := .text "t"
  selection := .text "a, b"
  joins := ["LEFT JOIN u ON t.id = u.id"]
  predicates := [⟨.text "a > ?", [.int 0]⟩, ⟨.text "b = ?", [.text "x"]⟩]
  order := some "ORDER BY a DESC"
  limit := some 5
  offset := some 2

/-- Calls that lead to it, with its first row asked for in between. -/
theorem performAll_grammatical_full :
    let db : Database Scripted.Engine :=
      { kind := .sqlite, config := {}, now := ⟨⟨2025, 1, 1⟩, ⟨0, 0, 0, 0, none⟩⟩, driver := Scripted.driver }
    let s : Session Scripted.Engine := { engine := {} }
    let fresh : Query := { table := .text "t" }
    let steps : List QueryStep :=
      [.clause (.select (.list [.text "a", .text "b"])),
        .clause (.join (.text "left") (.text "u") (.text "t.id = u.id")),
        .clause (.compare (.text "a") (.text ">") (.int 0)), .clause (.raw (.text "b = ?") (.tuple [.text "x"])),
        .terminal .first, .clause (.offset (.int 2)), .clause (.orderBy (.text "a") (.text "desc")),
        .clause (.limit (.int 5))]
    let q := (performAll db fresh steps s).1.2
    Query.start (.text "t") = .ok fresh ∧ Accepted fresh steps ∧ (∀ clause ∈ steps.filterMap clause?, clause.isFilled) ∧
      q.toSql = .ok ("SELECT a, b FROM t LEFT JOIN u ON t.id = u.id WHERE a > ? AND b = ? " ++
        "ORDER BY a DESC LIMIT 5 OFFSET 2", [.int 0, .text "x"]) ∧
      ∃ form : SelectForm, form.table = "t" ∧ form.Spells q ∧ q.toSql = .ok (form.text, q.params) ∧
        Grammatical form.parts := by
  intro db s fresh steps q
  have started : Query.start (.text "t") = .ok fresh := rfl
  have accepted : Accepted fresh steps := by decide
  have filled : ∀ clause ∈ steps.filterMap clause?, clause.isFilled := by decide
  obtain ⟨form, same, spells, written, -, -, -, grammatical, -, -⟩ :=
    performAll_grammatical db started (by decide) accepted filled s
  have led : q = fullQuery := performAll_query db rfl s
  have shown : q.toSql = .ok ("SELECT a, b FROM t LEFT JOIN u ON t.id = u.id WHERE a > ? AND b = ? " ++
      "ORDER BY a DESC LIMIT 5 OFFSET 2", [.int 0, .text "x"]) :=
    (congrArg Query.toSql led).trans rfl
  have limited : q.limit.isSome := by
    rw [led]
    rfl
  exact ⟨started, accepted, filled, shown, form, same, spells, written, grammatical.mpr fun _ => limited⟩

/-- An offset alone is accepted, and no form of the query keeps to the grammar. -/
theorem performAll_unlimited :
    let db : Database Scripted.Engine :=
      { kind := .sqlite, config := {}, now := ⟨⟨2025, 1, 1⟩, ⟨0, 0, 0, 0, none⟩⟩, driver := Scripted.driver }
    let fresh : Query := { table := .text "t" }
    let steps : List QueryStep := [.clause (.offset (.int 5))]
    let q := (performAll db fresh steps { engine := {} }).1.2
    Query.start (.text "t") = .ok fresh ∧ Accepted fresh steps ∧ (∀ clause ∈ steps.filterMap clause?, clause.isFilled) ∧
      q.toSql = .ok ("SELECT * FROM t OFFSET 5", []) ∧
      ∀ form : SelectForm, form.Spells q → form.text = "SELECT * FROM t OFFSET 5" ∧ ¬ Grammatical form.parts := by
  intro db fresh steps q
  refine ⟨rfl, by decide, by decide, rfl, fun form spells => ⟨?_, fun grammatical => ?_⟩⟩
  · exact (Except.ok.inj spells.selectStatement).symm
  · have limited := form.follows_iff.mp grammatical.follows
    rw [← spells.offset, ← spells.limit] at limited
    exact absurd (limited rfl) (by decide)

end Script.QueryStep
end DataLayer
