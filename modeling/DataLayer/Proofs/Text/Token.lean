import DataLayer.Proofs.Text.Quotes
import DataLayer.Text.Blank

/-! Rows of tokens with single blanks between them, and keywords among them. Main statement: a text that is put together
from rows of words, each behind a keyword, has only these rows in it. -/

namespace DataLayer.Text

/-- Tokens with single blanks between them. -/
def line (tokens : List String) : String := " ".intercalate tokens

theorem toList_line (tokens : List String) : (line tokens).toList = [' '].intercalate (tokens.map String.toList) :=
  String.toList_intercalate

theorem line_append {first second : List String} (some : first ≠ []) (more : second ≠ []) :
    line (first ++ second) = line first ++ " " ++ line second := by
  apply String.toList_inj.mp
  rw [String.toList_append, String.toList_append, toList_line, toList_line, toList_line, List.map_append]
  exact intercalate_append (by simpa using some) (by simpa using more)

theorem line_cons (token : String) {rest : List String} (some : rest ≠ []) :
    line (token :: rest) = token ++ " " ++ line rest :=
  line_append (List.cons_ne_nil token []) some

/-- Rows that are joined as their tokens are. -/
theorem line_flatten {rows : List (List String)} (some : ∀ row ∈ rows, row ≠ []) :
    " ".intercalate (rows.map line) = line rows.flatten := by
  apply String.toList_inj.mp
  have inner : ∀ row ∈ rows.map (List.map String.toList), row ≠ [] := by simpa using some
  have joined := @intercalate_flatten Char [' '] _ inner
  rw [String.toList_intercalate, toList_line, List.map_flatten, ← joined, List.map_map, List.map_map]
  exact congrArg _ (List.map_congr_left fun row _ => toList_line row)

/-- Tokens without a blank are the only ones in their text. -/
theorem line_inj {first second : List String} (some : first ≠ []) (more : second ≠ [])
    (solid : ∀ token ∈ first, ' ' ∉ token.toList) (alike : ∀ token ∈ second, ' ' ∉ token.toList)
    (same : line first = line second) : first = second := by
  have split {tokens : List String} (some : tokens ≠ []) (solid : ∀ token ∈ tokens, ' ' ∉ token.toList) :
      (line tokens).toList.splitOn ' ' = tokens.map String.toList := by
    rw [toList_line]
    exact List.splitOn_intercalate ' ' (by simpa using solid) (by simpa using some)
  have texts := split some solid
  rw [same, split more alike] at texts
  exact ((List.map_inj_right fun _ _ => String.toList_inj.mp).mp texts).symm

section Commas

/-- Words as they stand with commas behind all but the last. -/
def commaTokens : List String → List String
  | [] => []
  | word :: rest => (if rest = [] then word else word ++ ",") :: commaTokens rest

theorem commaTokens_ne_nil {words : List String} (some : words ≠ []) : commaTokens words ≠ [] := by
  cases words with
  | nil => exact absurd rfl some
  | cons word rest => exact List.cons_ne_nil _ _

theorem line_commaTokens (words : List String) : line (commaTokens words) = ", ".intercalate words := by
  induction words with
  | nil => rfl
  | cons word rest ih =>
    cases rest with
    | nil => exact String.intercalate_singleton.trans String.intercalate_singleton.symm
    | cons next rest =>
      have later : commaTokens (next :: rest) ≠ [] := List.cons_ne_nil _ _
      have comma : word ++ "," ++ " " = word ++ ", " := String.append_assoc
      rw [commaTokens, if_neg (List.cons_ne_nil _ _), line_cons _ later, ih, String.intercalate_cons_cons, comma]

/-- A token without its commas. -/
def bare (token : String) : String := String.ofList (token.toList.filter (· ≠ ','))

theorem bare_eq {word : String} (single : ',' ∉ word.toList) : bare word = word := by
  have kept : word.toList.filter (· ≠ ',') = word.toList :=
    List.filter_eq_self.mpr fun c member => decide_eq_true fun comma => single (comma ▸ member)
  rw [bare, kept, String.ofList_toList]

theorem bare_comma {word : String} (single : ',' ∉ word.toList) : bare (word ++ ",") = word := by
  have dropped : bare (word ++ ",") = bare word := by
    unfold bare
    rw [String.toList_append, List.filter_append]
    exact congrArg String.ofList (List.append_nil _)
  rw [dropped, bare_eq single]

/-- Words without commas are read off their tokens. -/
theorem map_bare_commaTokens {words : List String} (single : ∀ word ∈ words, ',' ∉ word.toList) :
    (commaTokens words).map bare = words := by
  induction words with
  | nil => rfl
  | cons word rest ih =>
    obtain ⟨one, others⟩ := List.forall_mem_cons.mp single
    rw [commaTokens, List.map_cons, ih others]
    split
    · rw [bare_eq one]
    · rw [bare_comma one]

theorem mem_commaTokens {token : String} {words : List String} (member : token ∈ commaTokens words) :
    ∃ word ∈ words, token = word ∨ token = word ++ "," := by
  induction words with
  | nil => cases member
  | cons word rest ih =>
    rcases List.mem_cons.mp member with first | later
    · refine ⟨word, List.mem_cons_self, ?_⟩
      rw [first]
      split
      · exact .inl rfl
      · exact .inr rfl
    · obtain ⟨other, among, known⟩ := ih later
      exact ⟨other, List.mem_cons_of_mem word among, known⟩

end Commas

/-- A keyword and the words behind it. -/
structure Segment where
  keyword : String
  words : List String

namespace Segment

/-- The tokens of a segment. -/
def tokens (segment : Segment) : List String := segment.keyword :: segment.words

/-- Reads segments from the last token back: the words before the first keyword, and the segments. -/
def read (isKeyword : String → Bool) : List String → List String × List Segment
  | [] => ([], [])
  | token :: rest =>
    if isKeyword token then ([], ⟨token, (read isKeyword rest).1⟩ :: (read isKeyword rest).2)
    else (token :: (read isKeyword rest).1, (read isKeyword rest).2)

variable {isKeyword : String → Bool}

/-- Holds of segments with one keyword each. -/
structure Sound (isKeyword : String → Bool) (segment : Segment) : Prop where
  keyword : isKeyword segment.keyword = true
  words : ∀ word ∈ segment.words, isKeyword word = false

theorem read_words {words : List String} (plain : ∀ word ∈ words, isKeyword word = false) (rest : List String) :
    read isKeyword (words ++ rest) = (words ++ (read isKeyword rest).1, (read isKeyword rest).2) := by
  induction words with
  | nil => rfl
  | cons word words ih =>
    obtain ⟨one, others⟩ := List.forall_mem_cons.mp plain
    rw [List.cons_append, read, if_neg (by simp [one]), ih others]
    rfl

theorem read_tokens {segments : List Segment} (sound : ∀ segment ∈ segments, segment.Sound isKeyword) :
    read isKeyword (segments.flatMap tokens) = ([], segments) := by
  induction segments with
  | nil => rfl
  | cons segment rest ih =>
    obtain ⟨one, others⟩ := List.forall_mem_cons.mp sound
    rw [List.flatMap_cons, tokens, List.cons_append, read, if_pos one.keyword, read_words one.words, ih others,
      List.append_nil]

/-- The segments of a row of tokens are the only ones. -/
theorem tokens_inj {first second : List Segment} (sound : ∀ segment ∈ first, segment.Sound isKeyword)
    (alike : ∀ segment ∈ second, segment.Sound isKeyword) (same : first.flatMap tokens = second.flatMap tokens) :
    first = second := by
  have read := read_tokens sound
  rw [same, read_tokens alike] at read
  exact (Prod.mk.inj read).2.symm

/-- Holds of segments whose keywords are of one group. -/
def Within (group : List String) (segments : List Segment) : Prop := ∀ segment ∈ segments, segment.keyword ∈ group

theorem Within.append {group others : List String} {first rest : List Segment} (one : Within group first)
    (more : Within others rest) : Within (group ++ others) (first ++ rest) := by
  intro segment member
  rcases List.mem_append.mp member with early | late
  · exact List.mem_append_left others (one segment early)
  · exact List.mem_append_right group (more segment late)

/-- Rows whose keywords have nothing in common are told apart by them. -/
theorem append_inj_of_within {group others : List String} (apart : ∀ keyword ∈ group, keyword ∉ others)
    {first second rest more : List Segment} (one : Within group first) (two : Within group second)
    (later : Within others rest) (last : Within others more) (same : first ++ rest = second ++ more) :
    first = second ∧ rest = more := by
  have own {segments : List Segment} (within : Within group segments) :
      segments.filter (fun segment => segment.keyword ∈ group) = segments :=
    List.filter_eq_self.mpr fun segment member => decide_eq_true (within segment member)
  have none {segments : List Segment} (within : Within others segments) :
      segments.filter (fun segment => segment.keyword ∈ group) = [] :=
    List.filter_eq_nil_iff.mpr fun segment member known =>
      apart _ (of_decide_eq_true known) (within segment member)
  have firsts := congrArg (List.filter fun segment => segment.keyword ∈ group) same
  rw [List.filter_append, List.filter_append, own one, own two, none later, none last, List.append_nil,
    List.append_nil] at firsts
  subst firsts
  exact ⟨rfl, List.append_cancel_left same⟩

end Segment

end DataLayer.Text
