import DataLayer.Proofs.Query.Slots
import DataLayer.Proofs.Text.Case
import DataLayer.Proofs.Text.Token

/-! Clauses never run into each other. Main statement: where names, kinds and conditions are made of plain words, the
statement of a query and its values tell every clause apart: the table, the select list, the joins, the predicates, the
order and the part of the result that is asked for. -/

namespace DataLayer

open DataLayer.Text

namespace Query

/-- The words that tell the clauses of a statement apart. -/
def keywords : List String := ["SELECT", "FROM", "JOIN", "ON", "WHERE", "AND", "ORDER", "BY", "LIMIT", "OFFSET"]

/-- Holds of words without white space, commas and placeholders that are no keyword in whatever case. -/
structure IsWord (word : String) : Prop where
  some : word ≠ ""
  solid : ∀ c ∈ word.toList, isBlank c = false ∧ c ≠ ',' ∧ c ≠ '?'
  free : upper word ∉ keywords

instance (word : String) : Decidable (IsWord word) :=
  decidable_of_iff
    (word ≠ "" ∧ (word.toList.all fun c => isBlank c = false ∧ c ≠ ',' ∧ c ≠ '?') ∧ upper word ∉ keywords)
    ⟨fun ⟨filled, solid, free⟩ => ⟨filled, by simpa using solid, free⟩,
      fun ⟨filled, solid, free⟩ => ⟨filled, by simpa using solid, free⟩⟩

/-- A join from its pieces: its condition is a row of words. -/
structure JoinPieces where
  kind : String
  table : String
  condition : List String

/-- A query from its pieces: the words of its select list, its joins, the words of its predicates with their values, the
column of its order with the direction, and its counts. -/
structure Pieces where
  table : String
  columns : List String := ["*"]
  joins : List JoinPieces := []
  predicates : List (List String × List Value) := []
  order : Option (String × String) := none
  limit : Option Nat := none
  offset : Option Nat := none

namespace JoinPieces

/-- Holds of joins made of words. -/
structure Clean (j : JoinPieces) : Prop where
  kind : IsWord j.kind
  table : IsWord j.table
  some : j.condition ≠ []
  condition : ∀ word ∈ j.condition, IsWord word

instance (j : JoinPieces) : Decidable j.Clean :=
  decidable_of_iff (IsWord j.kind ∧ IsWord j.table ∧ j.condition ≠ [] ∧ ∀ word ∈ j.condition, IsWord word)
    ⟨fun ⟨kind, table, filled, condition⟩ => ⟨kind, table, filled, condition⟩,
      fun ⟨kind, table, filled, condition⟩ => ⟨kind, table, filled, condition⟩⟩

/-- A join with its kind in upper case, as it stands in a statement. -/
def shown (j : JoinPieces) : JoinPieces := { j with kind := upper j.kind }

/-- The text of a join. -/
def text (j : JoinPieces) : String := upper j.kind ++ " JOIN " ++ j.table ++ " ON " ++ line j.condition

/-- The tokens of a join. -/
def tokens (j : JoinPieces) : List String := upper j.kind :: "JOIN" :: j.table :: "ON" :: j.condition

theorem line_tokens {j : JoinPieces} (some : j.condition ≠ []) : line j.tokens = j.text := by
  have join : " JOIN " = " " ++ ("JOIN" ++ " ") := rfl
  have on : " ON " = " " ++ ("ON" ++ " ") := rfl
  have «open» {token : String} {rest : List String} {next : String} :
      line (token :: next :: rest) = token ++ " " ++ line (next :: rest) := line_cons token (List.cons_ne_nil _ _)
  rw [tokens, «open», «open», «open», line_cons _ some, text, join, on]
  simp only [String.append_assoc]

end JoinPieces

/-- Holds of the words of a predicate: placeholders may be among them. -/
structure IsPredicate (words : List String) : Prop where
  some : words ≠ []
  each : ∀ word ∈ words, IsWord word ∨ word = "?"

instance (words : List String) : Decidable (IsPredicate words) :=
  decidable_of_iff (words ≠ [] ∧ ∀ word ∈ words, IsWord word ∨ word = "?")
    ⟨fun ⟨filled, each⟩ => ⟨filled, each⟩, fun ⟨filled, each⟩ => ⟨filled, each⟩⟩

namespace Pieces

/-- Holds of pieces that are made of words. -/
structure Clean (p : Pieces) : Prop where
  table : IsWord p.table
  some : p.columns ≠ []
  columns : ∀ column ∈ p.columns, IsWord column
  joins : ∀ j ∈ p.joins, j.Clean
  predicates : ∀ predicate ∈ p.predicates, IsPredicate predicate.1
  order : ∀ order, p.order = Option.some order → IsWord order.1 ∧ order.2 ∈ directions

instance (p : Pieces) : Decidable p.Clean :=
  decidable_of_iff (IsWord p.table ∧ (p.columns ≠ [] ∧ ∀ column ∈ p.columns, IsWord column) ∧ (∀ j ∈ p.joins, j.Clean) ∧
      (∀ predicate ∈ p.predicates, IsPredicate predicate.1) ∧
        ∀ order ∈ p.order, IsWord order.1 ∧ order.2 ∈ directions)
    ⟨fun ⟨table, ⟨filled, columns⟩, joins, predicates, order⟩ => ⟨table, filled, columns, joins, predicates, order⟩,
      fun ⟨table, filled, columns, joins, predicates, order⟩ => ⟨table, ⟨filled, columns⟩, joins, predicates, order⟩⟩

/-- The values of the predicates in order. -/
def params (p : Pieces) : List Value := p.predicates.flatMap Prod.snd

/-- The query that is made of the pieces. -/
def query (p : Pieces) : Query where
  table := .text p.table
  selection := .text (", ".intercalate p.columns)
  joins := p.joins.map JoinPieces.text
  predicates := p.predicates.map fun predicate => { fragment := .text (line predicate.1), params := predicate.2 }
  order := p.order.map fun order => "ORDER BY " ++ order.1 ++ " " ++ order.2
  limit := p.limit
  offset := p.offset

/-- Pieces whose queries say the same: kinds of joins count in upper case, and the values as one row. -/
structure Same (p other : Pieces) : Prop where
  table : p.table = other.table
  columns : p.columns = other.columns
  joins : p.joins.map JoinPieces.shown = other.joins.map JoinPieces.shown
  predicates : p.predicates.map Prod.fst = other.predicates.map Prod.fst
  params : p.params = other.params
  order : p.order = other.order
  limit : p.limit = other.limit
  offset : p.offset = other.offset

end Pieces

section Segments

/-- The segments of joins and of what stands before them. The kind of a join stands before its keyword. -/
def joinSegments (keyword : String) (words : List String) : List JoinPieces → List Segment
  | [] => [⟨keyword, words⟩]
  | j :: rest => ⟨keyword, words ++ [upper j.kind]⟩ :: ⟨"JOIN", [j.table]⟩ :: joinSegments "ON" j.condition rest

/-- The segments of predicates. -/
def predicateSegments : List (List String) → List Segment
  | [] => []
  | first :: rest => ⟨"WHERE", first⟩ :: rest.map (Segment.mk "AND")

/-- The segments of an order. -/
def orderSegments : Option (String × String) → List Segment
  | none => []
  | some order => [⟨"ORDER", []⟩, ⟨"BY", [order.1, order.2]⟩]

/-- The segment of a count. -/
def countSegments (keyword : String) : Option Nat → List Segment
  | none => []
  | some n => [⟨keyword, [decimal n]⟩]

/-- The segments of a statement. -/
def Pieces.segments (p : Pieces) : List Segment :=
  ⟨"SELECT", commaTokens p.columns⟩ :: (joinSegments "FROM" [p.table] p.joins ++
    (predicateSegments (p.predicates.map Prod.fst) ++
      (orderSegments p.order ++ (countSegments "LIMIT" p.limit ++ countSegments "OFFSET" p.offset))))

/-- The row of tokens of some segments, if there are any. -/
def rowsOf (segments : List Segment) : List (List String) :=
  if segments = [] then [] else [segments.flatMap Segment.tokens]

theorem flatten_rowsOf (segments : List Segment) : (rowsOf segments).flatten = segments.flatMap Segment.tokens := by
  unfold rowsOf
  split
  · next none => rw [none]; rfl
  · exact List.append_nil _

theorem rowsOf_ne_nil {segments : List Segment} : ∀ row ∈ rowsOf segments, row ≠ [] := by
  unfold rowsOf
  split
  · exact nofun
  · next some =>
    intro row member
    obtain rfl := List.mem_singleton.mp member
    cases segments with
    | nil => exact absurd rfl some
    | cons segment rest => exact List.cons_ne_nil _ _

theorem joinSegments_tokens (keyword : String) (words : List String) (joins : List JoinPieces) :
    (joinSegments keyword words joins).flatMap Segment.tokens =
      keyword :: words ++ joins.flatMap JoinPieces.tokens := by
  induction joins generalizing keyword words with
  | nil => simp [joinSegments, Segment.tokens]
  | cons j rest ih => simp [joinSegments, ih, Segment.tokens, JoinPieces.tokens]

/-- Predicates behind a keyword, the first of them in the place of that keyword's words. -/
theorem line_predicates (keyword : String) {first : List String} {rest : List (List String)} (some : first ≠ [])
    (others : ∀ words ∈ rest, words ≠ []) :
    line (keyword :: first ++ rest.flatMap fun words => "AND" :: words) =
      keyword ++ " " ++ " AND ".intercalate ((first :: rest).map line) := by
  induction rest generalizing keyword first with
  | nil => rw [List.flatMap_nil, List.append_nil, line_cons _ some, List.map_singleton, String.intercalate_singleton]
  | cons next rest ih =>
    obtain ⟨one, more⟩ := List.forall_mem_cons.mp others
    have later : "AND" :: next ++ rest.flatMap (fun words => "AND" :: words) ≠ [] := List.cons_ne_nil _ _
    have and : line first ++ " AND " = line first ++ " " ++ ("AND" ++ " ") := by rw [String.append_assoc]; rfl
    rw [List.flatMap_cons, line_append (List.cons_ne_nil keyword first) later, ih "AND" one more, line_cons _ some]
    simp only [List.map_cons, String.intercalate_cons_cons, and, String.append_assoc]

theorem predicateSegments_tokens (first : List String) (rest : List (List String)) :
    (predicateSegments (first :: rest)).flatMap Segment.tokens =
      "WHERE" :: first ++ rest.flatMap fun words => "AND" :: words := by
  rw [predicateSegments, List.flatMap_cons, List.flatMap_map]
  rfl

theorem whereParts_rows {p : Pieces} (clean : p.Clean) :
    p.query.whereParts = .ok ((rowsOf (predicateSegments (p.predicates.map Prod.fst))).map line) := by
  have joined : Value.joinTexts " AND " (p.query.predicates.map Predicate.fragment) =
      .ok (" AND ".intercalate ((p.predicates.map Prod.fst).map line)) := by
    rw [Value.joinTexts_eq_ok, Pieces.query, List.map_map, List.map_map]
    refine ⟨fun item member => ?_, ?_⟩
    · obtain ⟨predicate, -, rfl⟩ := List.mem_map.mp member
      rfl
    · rw [List.map_map]
      rfl
  have rows : ∀ words ∈ p.predicates.map Prod.fst, words ≠ [] := by
    intro words member
    obtain ⟨predicate, among, rfl⟩ := List.mem_map.mp member
    exact (clean.predicates predicate among).some
  unfold whereParts whereClause
  rw [joined]
  cases known : p.predicates with
  | nil =>
    have none : p.query.predicates = [] := by simp [Pieces.query, known]
    rw [none]
    rfl
  | cons first rest =>
    have filled : p.query.predicates.isEmpty = false := by simp [Pieces.query, known]
    rw [known, List.map_cons] at rows
    obtain ⟨one, others⟩ := List.forall_mem_cons.mp rows
    have text := line_predicates "WHERE" one others
    have some : predicateSegments (first.1 :: rest.map Prod.fst) ≠ [] := List.cons_ne_nil _ _
    rw [filled, if_neg Bool.false_ne_true, rowsOf, List.map_cons, if_neg some, predicateSegments_tokens,
      List.map_singleton, text]
    rfl

theorem order_rows (p : Pieces) : p.query.order.toList = (rowsOf (orderSegments p.order)).map line := by
  cases known : p.order with
  | none => simp [Pieces.query, known, rowsOf, orderSegments]
  | some order =>
    have by_ : "ORDER BY " = "ORDER" ++ " " ++ ("BY" ++ " ") := rfl
    have text : line ["ORDER", "BY", order.1, order.2] = "ORDER BY " ++ order.1 ++ " " ++ order.2 := by
      simp only [line, String.intercalate_cons_cons, String.intercalate_singleton, by_, String.append_assoc]
    simp [Pieces.query, known, rowsOf, orderSegments, Segment.tokens, text]

theorem count_rows (keyword : String) (count : Option Nat) :
    countPart keyword count = (rowsOf (countSegments keyword count)).map line := by
  cases count with
  | none => rfl
  | some n => simp [countPart, rowsOf, countSegments, Segment.tokens, line]

/-- The statement is the row of the tokens of its segments. -/
theorem selectStatement_line {p : Pieces} (clean : p.Clean) :
    p.query.selectStatement = .ok (line (p.segments.flatMap Segment.tokens)) := by
  let head : List String := "SELECT" :: commaTokens p.columns ++ ["FROM", p.table]
  let rows : List (List String) := head :: p.joins.map JoinPieces.tokens ++
    rowsOf (predicateSegments (p.predicates.map Prod.fst)) ++ rowsOf (orderSegments p.order) ++
      rowsOf (countSegments "LIMIT" p.limit) ++ rowsOf (countSegments "OFFSET" p.offset)
  have some : ∀ row ∈ rows, row ≠ [] := by
    simp only [rows, List.forall_mem_append, List.forall_mem_cons, List.forall_mem_map]
    exact ⟨⟨⟨⟨⟨List.cons_ne_nil _ _, fun _ _ => List.cons_ne_nil _ _⟩, rowsOf_ne_nil⟩, rowsOf_ne_nil⟩, rowsOf_ne_nil⟩,
      rowsOf_ne_nil⟩
  have begins : line head = "SELECT " ++ ", ".intercalate p.columns ++ " FROM " ++ p.table := by
    have select : "SELECT " = "SELECT" ++ " " := rfl
    have «from» : " FROM " = " " ++ ("FROM" ++ " ") := rfl
    have table : line ["FROM", p.table] = "FROM" ++ " " ++ p.table := by
      rw [line_cons _ (List.cons_ne_nil _ _), line, String.intercalate_singleton]
    rw [line_append (List.cons_ne_nil _ _) (List.cons_ne_nil _ _), line_cons _ (commaTokens_ne_nil clean.some),
      line_commaTokens, table, select, «from»]
    simp only [String.append_assoc]
  have joins : p.query.joins = (p.joins.map JoinPieces.tokens).map line := by
    rw [List.map_map]
    refine List.map_congr_left fun j member => ?_
    rw [Function.comp_apply, JoinPieces.line_tokens (clean.joins j member).some]
  have all : rows.flatten = p.segments.flatMap Segment.tokens := by
    simp only [rows, head, Pieces.segments, List.flatten_append, List.flatten_cons, flatten_rowsOf, List.flatMap_cons,
      List.flatMap_append, joinSegments_tokens, ← List.flatMap_def, Segment.tokens, List.cons_append, List.append_assoc,
      List.nil_append]
  unfold selectStatement selectWith
  rw [whereParts_rows clean]
  change Except.ok (" ".intercalate ((("SELECT " ++ ", ".intercalate p.columns ++ " FROM " ++ p.table) ::
    p.query.joins ++ (rowsOf (predicateSegments (p.predicates.map Prod.fst))).map line ++ p.query.order.toList ++
      countPart "LIMIT" p.limit ++ countPart "OFFSET" p.offset))) = _
  rw [← begins, joins, order_rows, count_rows, count_rows, ← all, ← line_flatten some]
  simp only [rows, List.map_append, List.map_cons]

end Segments

section Tokens

/-- Holds of the tokens that stand between keywords. -/
structure IsToken (token : String) : Prop where
  free : token ∉ keywords
  solid : ' ' ∉ token.toList

theorem keywords_upper : ∀ keyword ∈ keywords, upper keyword = keyword := by decide +kernel

theorem keywords_solid : ∀ keyword ∈ keywords, ' ' ∉ keyword.toList ∧ ',' ∉ keyword.toList := by decide

theorem IsWord.single {word : String} (isWord : IsWord word) : ',' ∉ word.toList :=
  fun member => (isWord.solid ',' member).2.1 rfl

theorem IsWord.isToken {word : String} (isWord : IsWord word) : IsToken word where
  free member := isWord.free (by rwa [keywords_upper word member])
  solid member := absurd (isWord.solid ' ' member).1 (by decide)

theorem caseless_blank : IsCaseless ' ' := caseless_of_isBlank (by decide)

theorem IsWord.isToken_upper {word : String} (isWord : IsWord word) : IsToken (upper word) where
  free := isWord.free
  solid member := isWord.isToken.solid (mem_of_mem_upper caseless_blank member)

theorem IsWord.isToken_comma {word : String} (isWord : IsWord word) : IsToken (word ++ ",") where
  free member := (keywords_solid _ member).2 (by simp)
  solid := by
    rw [String.toList_append, List.mem_append, not_or]
    exact ⟨isWord.isToken.solid, by decide⟩

theorem isToken_commaTokens {words : List String} (each : ∀ word ∈ words, IsWord word) :
    ∀ token ∈ commaTokens words, IsToken token := by
  intro token member
  obtain ⟨word, among, rfl | rfl⟩ := mem_commaTokens member
  · exact (each _ among).isToken
  · exact (each word among).isToken_comma

theorem isToken_mark : IsToken "?" := ⟨by decide, by decide⟩

theorem isToken_direction {direction : String} (known : direction ∈ directions) : IsToken direction := by
  have each : ∀ direction ∈ directions, direction ∉ keywords ∧ ' ' ∉ direction.toList := by decide
  exact ⟨(each direction known).1, (each direction known).2⟩

theorem isToken_decimal (n : Nat) : IsToken (decimal n) where
  free member := by
    have letters : ∀ keyword ∈ keywords, keyword.toList.any (! ·.isDigit) = true := by decide
    obtain ⟨c, inside, letter⟩ := List.any_eq_true.mp (letters _ member)
    rw [decimal, String.toList_ofList] at inside
    have digit := Nat.isDigit_of_mem_toDigits (by decide) (by decide) inside
    rw [digit] at letter
    cases letter
  solid member := absurd (solid_decimal n ' ' member) (by decide)

/-- Holds of segments that begin with keywords and have none among their words. -/
def Tidy (segments : List Segment) : Prop :=
  ∀ segment ∈ segments, segment.keyword ∈ keywords ∧ ∀ word ∈ segment.words, IsToken word

theorem tidy_append {first rest : List Segment} (one : Tidy first) (more : Tidy rest) : Tidy (first ++ rest) :=
  List.forall_mem_append.mpr ⟨one, more⟩

theorem tidy_joinSegments {keyword : String} {words : List String} {joins : List JoinPieces}
    (known : keyword ∈ keywords) (each : ∀ word ∈ words, IsToken word) (clean : ∀ j ∈ joins, j.Clean) :
    Tidy (joinSegments keyword words joins) := by
  induction joins generalizing keyword words with
  | nil => exact List.forall_mem_singleton.mpr ⟨known, each⟩
  | cons j rest ih =>
    obtain ⟨one, others⟩ := List.forall_mem_cons.mp clean
    have later := ih (by decide : "ON" ∈ keywords) (fun word member => (one.condition word member).isToken) others
    have join : "JOIN" ∈ keywords := by decide
    refine List.forall_mem_cons.mpr ⟨⟨known, ?_⟩, List.forall_mem_cons.mpr ⟨⟨join, ?_⟩, later⟩⟩
    · exact List.forall_mem_append.mpr ⟨each, List.forall_mem_singleton.mpr one.kind.isToken_upper⟩
    · exact List.forall_mem_singleton.mpr one.table.isToken

theorem IsPredicate.isToken {words : List String} (predicate : IsPredicate words) : ∀ word ∈ words, IsToken word := by
  intro word member
  rcases predicate.each word member with isWord | rfl
  · exact isWord.isToken
  · exact isToken_mark

theorem tidy_predicateSegments {rows : List (List String)} (each : ∀ words ∈ rows, IsPredicate words) :
    Tidy (predicateSegments rows) := by
  cases rows with
  | nil => exact nofun
  | cons first rest =>
    obtain ⟨one, others⟩ := List.forall_mem_cons.mp each
    refine List.forall_mem_cons.mpr ⟨⟨(by decide : "WHERE" ∈ keywords), one.isToken⟩, ?_⟩
    exact List.forall_mem_map.mpr fun words member => ⟨(by decide : "AND" ∈ keywords), (others words member).isToken⟩

theorem tidy_orderSegments {order : Option (String × String)}
    (each : ∀ known, order = some known → IsWord known.1 ∧ known.2 ∈ directions) : Tidy (orderSegments order) := by
  cases order with
  | none => exact nofun
  | some known =>
    obtain ⟨column, direction⟩ := each known rfl
    have words : ∀ word ∈ [known.1, known.2], IsToken word :=
      List.forall_mem_cons.mpr ⟨column.isToken, List.forall_mem_singleton.mpr (isToken_direction direction)⟩
    exact List.forall_mem_cons.mpr ⟨⟨by decide, nofun⟩, List.forall_mem_singleton.mpr
      ⟨(by decide : "BY" ∈ keywords), words⟩⟩

theorem tidy_countSegments {keyword : String} (known : keyword ∈ keywords) (count : Option Nat) :
    Tidy (countSegments keyword count) := by
  cases count with
  | none => exact nofun
  | some n => exact List.forall_mem_singleton.mpr ⟨known, List.forall_mem_singleton.mpr (isToken_decimal n)⟩

theorem Pieces.tidy_segments {p : Pieces} (clean : p.Clean) : Tidy p.segments := by
  have rows : ∀ words ∈ p.predicates.map Prod.fst, IsPredicate words := List.forall_mem_map.mpr clean.predicates
  refine List.forall_mem_cons.mpr ⟨⟨(by decide : "SELECT" ∈ keywords), isToken_commaTokens clean.columns⟩, ?_⟩
  refine tidy_append (tidy_joinSegments (by decide) (List.forall_mem_singleton.mpr clean.table.isToken) clean.joins) ?_
  refine tidy_append (tidy_predicateSegments rows) (tidy_append (tidy_orderSegments clean.order) ?_)
  exact tidy_append (tidy_countSegments (by decide) _) (tidy_countSegments (by decide) _)

theorem Tidy.sound {segments : List Segment} (tidy : Tidy segments) :
    ∀ segment ∈ segments, segment.Sound fun token => decide (token ∈ keywords) := by
  intro segment member
  obtain ⟨keyword, words⟩ := tidy segment member
  exact ⟨decide_eq_true keyword, fun word inside => decide_eq_false (words word inside).free⟩

theorem Tidy.solid {segments : List Segment} (tidy : Tidy segments) :
    ∀ token ∈ segments.flatMap Segment.tokens, ' ' ∉ token.toList := by
  intro token member
  obtain ⟨segment, among, inside⟩ := List.mem_flatMap.mp member
  rcases List.mem_cons.mp inside with rfl | inside
  · exact (keywords_solid _ (tidy segment among).1).1
  · exact ((tidy segment among).2 token inside).solid

end Tokens

section Readings

theorem within_joinSegments (words : List String) (joins : List JoinPieces) {keyword : String}
    (known : keyword ∈ ["FROM", "JOIN", "ON"]) :
    Segment.Within ["FROM", "JOIN", "ON"] (joinSegments keyword words joins) := by
  induction joins generalizing keyword words with
  | nil => exact List.forall_mem_singleton.mpr known
  | cons j rest ih =>
    have join : "JOIN" ∈ ["FROM", "JOIN", "ON"] := by decide
    exact List.forall_mem_cons.mpr ⟨known, List.forall_mem_cons.mpr ⟨join, ih _ (by decide)⟩⟩

theorem within_predicateSegments (rows : List (List String)) :
    Segment.Within ["WHERE", "AND"] (predicateSegments rows) := by
  cases rows with
  | nil => exact nofun
  | cons first rest =>
    have and : "AND" ∈ ["WHERE", "AND"] := by decide
    exact List.forall_mem_cons.mpr ⟨List.mem_cons_self, List.forall_mem_map.mpr fun _ _ => and⟩

theorem within_orderSegments (order : Option (String × String)) :
    Segment.Within ["ORDER", "BY"] (orderSegments order) := by
  cases order with
  | none => exact nofun
  | some known =>
    have by_ : "BY" ∈ ["ORDER", "BY"] := by decide
    exact List.forall_mem_cons.mpr ⟨List.mem_cons_self, List.forall_mem_singleton.mpr by_⟩

theorem within_countSegments (keyword : String) (count : Option Nat) :
    Segment.Within [keyword] (countSegments keyword count) := by
  cases count with
  | none => exact nofun
  | some n => exact List.forall_mem_singleton.mpr List.mem_cons_self

/-- The last word before a join is its kind, and all others belong to what stands before. -/
theorem joinSegments_inj {keyword : String} {words others : List String} {joins more : List JoinPieces}
    (same : joinSegments keyword words joins = joinSegments keyword others more) :
    words = others ∧ joins.map JoinPieces.shown = more.map JoinPieces.shown := by
  -- the condition of each join takes the place of what stands before the next one
  induction joins generalizing keyword words others more with
  | nil =>
    cases more with
    | nil => simpa [joinSegments] using same
    | cons j rest => cases rest <;> simp [joinSegments] at same
  | cons j rest ih =>
    cases more with
    | nil => cases rest <;> simp [joinSegments] at same
    | cons j' rest' =>
      simp only [joinSegments, List.cons.injEq, Segment.mk.injEq, true_and] at same
      obtain ⟨before, table, later⟩ := same
      obtain ⟨words, kind⟩ := List.append_inj' before rfl
      obtain ⟨condition, joins⟩ := ih later
      refine ⟨words, ?_⟩
      have shown : j.shown = j'.shown := by
        simp only [JoinPieces.shown, JoinPieces.mk.injEq]
        exact ⟨List.singleton_inj.mp kind, table.1, condition⟩
      rw [List.map_cons, List.map_cons, joins, shown]

theorem predicateSegments_inj {rows others : List (List String)}
    (same : predicateSegments rows = predicateSegments others) : rows = others := by
  have words (rows : List (List String)) : (predicateSegments rows).map Segment.words = rows := by
    cases rows with
    | nil => rfl
    | cons first rest => simp [predicateSegments, Function.comp_def]
  rw [← words rows, same, words]

theorem orderSegments_inj {order other : Option (String × String)} (same : orderSegments order = orderSegments other) :
    order = other := by
  cases order <;> cases other <;> simp_all [orderSegments, Prod.ext_iff]

theorem decimal_inj {m n : Nat} (same : decimal m = decimal n) : m = n := by
  have digits : Nat.toDigits 10 m = Nat.toDigits 10 n := String.ofList_inj.mp same
  have read := Nat.ofDigitChars_toDigits (n := m) (by decide : 1 < 10) (by decide : 10 ≤ 10)
  rw [digits, Nat.ofDigitChars_toDigits (by decide) (by decide)] at read
  exact read.symm

theorem countSegments_inj {keyword : String} {count other : Option Nat}
    (same : countSegments keyword count = countSegments keyword other) : count = other := by
  cases count with
  | none =>
    cases other with
    | none => rfl
    | some n => cases same
  | some m =>
    cases other with
    | none => cases same
    | some n =>
      simp only [countSegments, List.cons.injEq, Segment.mk.injEq, true_and, and_true] at same
      rw [decimal_inj same]

/-- The segments of a statement tell what it was made of. -/
theorem Pieces.segments_inj {p other : Pieces} (clean : p.Clean) (alike : other.Clean)
    (same : p.segments = other.segments) (params : p.params = other.params) : p.Same other := by
  obtain ⟨head, tail⟩ := List.cons.inj same
  have counts (p : Pieces) :=
    (within_countSegments "LIMIT" p.limit).append (within_countSegments "OFFSET" p.offset)
  have orders (p : Pieces) := (within_orderSegments p.order).append (counts p)
  have conditions (p : Pieces) := (within_predicateSegments (p.predicates.map Prod.fst)).append (orders p)
  have joins (p : Pieces) := within_joinSegments [p.table] p.joins (by decide : "FROM" ∈ ["FROM", "JOIN", "ON"])
  -- no keyword of a part is in a later one, so the parts come off one after the other
  obtain ⟨joined, tail⟩ :=
    Segment.append_inj_of_within (by decide) (joins p) (joins other) (conditions p) (conditions other) tail
  obtain ⟨conditioned, tail⟩ := Segment.append_inj_of_within (by decide) (within_predicateSegments _)
    (within_predicateSegments _) (orders p) (orders other) tail
  obtain ⟨ordered, tail⟩ := Segment.append_inj_of_within (by decide) (within_orderSegments _) (within_orderSegments _)
    (counts p) (counts other) tail
  obtain ⟨limited, skipped⟩ := Segment.append_inj_of_within (by decide) (within_countSegments _ _)
    (within_countSegments _ _) (within_countSegments _ _) (within_countSegments _ _) tail
  obtain ⟨table, joins⟩ := joinSegments_inj joined
  refine ⟨List.singleton_inj.mp table, ?_, joins, predicateSegments_inj conditioned, params, orderSegments_inj ordered,
    countSegments_inj limited, countSegments_inj skipped⟩
  have words := congrArg (List.map bare) (Segment.mk.inj head).2
  rwa [map_bare_commaTokens fun word member => (clean.columns word member).single,
    map_bare_commaTokens fun word member => (alike.columns word member).single] at words

theorem Pieces.query_params (p : Pieces) : p.query.params = p.params :=
  List.flatMap_map _ _ _

theorem Pieces.toSql_line {p : Pieces} (clean : p.Clean) :
    p.query.toSql = .ok (line (p.segments.flatMap Segment.tokens), p.params) := by
  unfold toSql
  rw [selectStatement_line clean, p.query_params]
  rfl

/-- Queries made of words that have the same statement and the same values say the same. -/
theorem Pieces.same_of_toSql {p other : Pieces} (clean : p.Clean) (alike : other.Clean)
    (same : p.query.toSql = other.query.toSql) : p.Same other := by
  rw [toSql_line clean, toSql_line alike] at same
  obtain ⟨texts, params⟩ := Prod.mk.inj (Except.ok.inj same)
  have first := tidy_segments clean
  have second := tidy_segments alike
  have tokens := line_inj (List.cons_ne_nil _ _) (List.cons_ne_nil _ _) first.solid second.solid texts
  exact segments_inj clean alike (Segment.tokens_inj first.sound second.sound tokens) params

end Readings
end Query

open Query in
/-- Holds of clauses whose texts are made of words. Values, counts and directions are free. -/
def Clause.Clean : Clause → Prop
  | .select columns => ∃ words, words ≠ [] ∧ (∀ word ∈ words, IsWord word) ∧
      selectionOf columns = .ok (.text (", ".intercalate words))
  | .join kind table condition => ∃ j : JoinPieces, j.Clean ∧ kind = .text j.kind ∧ table = .text j.table ∧
      condition = .text (line j.condition)
  | .fragment sql => ∃ words, IsPredicate words ∧ sql = .text (line words)
  | .compare column operator _ => ∃ name sign, IsWord name ∧ IsWord sign ∧ column = .text name ∧ operator = .text sign
  | .raw sql _ => ∃ words, IsPredicate words ∧ sql = .text (line words)
  | .orderBy column _ => ∃ name, IsWord name ∧ column = .text name
  | _ => True

namespace Query

theorem orderBy_eq_ok {q after : Query} {column direction : Value}
    (applied : q.orderBy column direction = (.ok (), after)) :
    ∃ word ∈ directions, after = { q with order := some ("ORDER BY " ++ column.display ++ " " ++ word) } := by
  unfold orderBy at applied
  split at applied
  · cases applied
  · split at applied
    · next word _ =>
      split at applied
      · next known => exact ⟨word, List.contains_iff_mem.mp known, (Prod.mk.inj applied).2.symm⟩
      · cases applied
    · cases applied

theorem isWord_star : IsWord "*" := by decide +kernel

namespace Pieces

variable {p : Pieces}

/-- A table with nothing else said. -/
theorem clean_bare {table : String} (isWord : IsWord table) : Clean { table } where
  table := isWord
  some := List.cons_ne_nil _ _
  columns := List.forall_mem_singleton.mpr isWord_star
  joins := nofun
  predicates := nofun
  order := nofun

/-- The pieces with one more join. -/
def withJoin (p : Pieces) (j : JoinPieces) : Pieces := { p with joins := p.joins ++ [j] }

theorem Clean.withJoin (clean : p.Clean) {j : JoinPieces} (made : j.Clean) : (p.withJoin j).Clean :=
  { clean with joins := List.forall_mem_append.mpr ⟨clean.joins, List.forall_mem_singleton.mpr made⟩ }

theorem query_withJoin (p : Pieces) (j : JoinPieces) :
    (p.withJoin j).query = { p.query with joins := p.query.joins ++ [j.text] } := by
  simp [query, withJoin]

/-- The pieces with one more predicate. -/
def withPredicate (p : Pieces) (words : List String) (values : List Value) : Pieces :=
  { p with predicates := p.predicates ++ [(words, values)] }

theorem Clean.withPredicate (clean : p.Clean) {words : List String} (made : IsPredicate words) (values : List Value) :
    (p.withPredicate words values).Clean :=
  { clean with predicates := List.forall_mem_append.mpr ⟨clean.predicates, List.forall_mem_singleton.mpr made⟩ }

theorem query_withPredicate (p : Pieces) (words : List String) (values : List Value) :
    (p.withPredicate words values).query = p.query.withPredicate (.text (line words)) values := by
  simp [query, withPredicate, Query.withPredicate]

theorem line_comparison (name sign : String) : line [name, sign, "?"] = name ++ " " ++ sign ++ " ?" := by
  have mark : " ?" = " " ++ "?" := rfl
  simp only [line, String.intercalate_cons_cons, String.intercalate_singleton, mark, String.append_assoc]

/-- A clause that is made of words leads from pieces to pieces. -/
theorem apply_query (clean : p.Clean) {clause : Clause} (made : clause.Clean) {q : Query}
    (applied : p.query.apply clause = (.ok (), q)) :
    ∃ after : Pieces, after.Clean ∧ after.table = p.table ∧ after.query = q := by
  cases clause with
  | select columns =>
    obtain ⟨words, some, each, known⟩ := made
    obtain ⟨selection, selected, rfl⟩ := select_list applied
    rw [Clause.selection?, known] at selected
    cases selected
    exact ⟨{ p with columns := words }, { clean with some, columns := each }, rfl, rfl⟩
  | join kind table condition =>
    obtain ⟨j, made, rfl, rfl, rfl⟩ := made
    cases applied
    exact ⟨_, clean.withJoin made, rfl, p.query_withJoin j⟩
  | fragment sql =>
    obtain ⟨words, made, rfl⟩ := made
    cases applied
    exact ⟨_, clean.withPredicate made [], rfl, p.query_withPredicate words []⟩
  | compare column operator value =>
    obtain ⟨name, sign, column, operator, rfl, rfl⟩ := made
    have made : IsPredicate [name, sign, "?"] :=
      ⟨List.cons_ne_nil _ _, List.forall_mem_cons.mpr ⟨.inl column, List.forall_mem_cons.mpr ⟨.inl operator,
        List.forall_mem_singleton.mpr (.inr rfl)⟩⟩⟩
    cases applied
    refine ⟨_, clean.withPredicate made [value], rfl, ?_⟩
    rw [query_withPredicate, line_comparison]
    rfl
  | raw sql params =>
    obtain ⟨words, made, rfl⟩ := made
    obtain ⟨values, -, rfl⟩ := raw_eq_ok applied
    exact ⟨_, clean.withPredicate made values, rfl, p.query_withPredicate words values⟩
  | orderBy column direction =>
    obtain ⟨name, isWord, rfl⟩ := made
    obtain ⟨word, known, rfl⟩ := orderBy_eq_ok applied
    refine ⟨{ p with order := some (name, word) }, { clean with order := ?_ }, rfl, rfl⟩
    rintro _ ⟨⟩
    exact ⟨isWord, known⟩
  | limit count =>
    simp only [apply] at applied
    split at applied
    · next n known =>
      cases applied
      exact ⟨{ p with limit := some n }, { clean with }, rfl, rfl⟩
    · cases applied
  | offset count =>
    simp only [apply] at applied
    split at applied
    · next n known =>
      cases applied
      exact ⟨{ p with offset := some n }, { clean with }, rfl, rfl⟩
    · cases applied
  | reset =>
    cases applied
    exact ⟨{ table := p.table }, clean_bare clean.table, rfl, rfl⟩

theorem applyAll_query (clean : p.Clean) {clauses : List Clause} (made : ∀ clause ∈ clauses, clause.Clean) {q : Query}
    (applied : p.query.applyAll clauses = .ok q) :
    ∃ after : Pieces, after.Clean ∧ after.table = p.table ∧ after.query = q := by
  induction clauses generalizing p with
  | nil => exact ⟨p, clean, rfl, Except.ok.inj applied⟩
  | cons clause rest ih =>
    obtain ⟨one, others⟩ := List.forall_mem_cons.mp made
    unfold applyAll at applied
    split at applied
    · next next known =>
      obtain ⟨between, clean, table, rfl⟩ := apply_query clean one known
      obtain ⟨after, clean, same, query⟩ := ih clean others applied
      exact ⟨after, clean, same.trans table, query⟩
    · cases applied

end Pieces

/-- Calls whose texts are made of words lead to a query that is made of words. Such a query has a statement, and two
of them that have the same statement and the same values have the same table, select list, joins, predicates, order,
limit and offset. -/
theorem toSql_injective :
    (∀ {table : String} {clauses : List Clause} {fresh q : Query}, IsWord table → (∀ clause ∈ clauses, clause.Clean) →
      start (.text table) = .ok fresh → fresh.applyAll clauses = .ok q →
        ∃ p : Pieces, p.Clean ∧ p.table = table ∧ p.query = q) ∧
    (∀ {p : Pieces}, p.Clean → ∃ sql, p.query.toSql = .ok (sql, p.params)) ∧
    ∀ {p other : Pieces}, p.Clean → other.Clean → p.query.toSql = other.query.toSql → p.Same other := by
  refine ⟨?_, fun clean => ⟨_, Pieces.toSql_line clean⟩, Pieces.same_of_toSql⟩
  intro table clauses fresh q isWord made started applied
  rw [start_ok started] at applied
  exact Pieces.applyAll_query (Pieces.clean_bare isWord) made applied

theorem toSql_injective_joined :
    let p : Pieces := { table := "t", joins := [⟨"left", "u", ["t.a", "=", "u.a"]⟩],
                        predicates := [(["x", "=", "?"], [.int 1]), (["y", "=", "?"], [.int 2])] }
    let other : Pieces := { table := "t", joins := [⟨"LEFT", "u", ["t.a", "=", "u.a"]⟩],
                            predicates := [(["x", "=", "?"], []), (["y", "=", "?"], [.int 1, .int 2])] }
    (∃ made : Pieces, made.Clean ∧ made.table = "t" ∧ made.query = p.query) ∧
      (∃ sql, p.query.toSql = .ok (sql, [.int 1, .int 2])) ∧ p.Same other := by
  intro p other
  have join : (⟨"left", "u", ["t.a", "=", "u.a"]⟩ : JoinPieces).Clean := by decide +kernel
  have made : ∀ clause ∈ [Clause.join (.text "left") (.text "u") (.text "t.a = u.a"),
      .compare (.text "x") (.text "=") (.int 1), .raw (.text "y = ?") (.list [.int 2])], clause.Clean := by
    simp only [List.forall_mem_cons]
    exact ⟨⟨_, join, rfl, rfl, rfl⟩, ⟨"x", "=", by decide +kernel, by decide +kernel, rfl, rfl⟩,
      ⟨["y", "=", "?"], by decide +kernel, rfl⟩, nofun⟩
  have one : p.Clean := by decide +kernel
  have two : other.Clean := by decide +kernel
  exact ⟨toSql_injective.1 (by decide +kernel) made rfl rfl, toSql_injective.2.1 one,
    toSql_injective.2.2 one two (by rfl)⟩

end Query
end DataLayer
