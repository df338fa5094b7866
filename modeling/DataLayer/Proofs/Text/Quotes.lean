import DataLayer.Number.Shortest
import DataLayer.Text.Blank

/-! Texts with parts between quotes, read by the usual rule: within quotes the quote itself is written twice, and
nothing else is special. Main statements: a row of lexemes is read back from its spelling, as long as no quoted part
stands right behind another; and the text of a number has nothing to be quoted. -/

namespace DataLayer.Text

/-- A character outside of quotes, or all that stands between two quotes. -/
inductive Lexeme where
  | bare (c : Char)
  | quoted (quote : Char) (content : List Char)
deriving DecidableEq

/-- Holds of back quotes and single quotes. -/
def isQuote (c : Char) : Bool := c == '\x60' || c == '\x27'

/-- Holds of rows of characters without quotes. -/
def Unquoted (chars : List Char) : Prop := ∀ c ∈ chars, isQuote c = false

instance (chars : List Char) : Decidable (Unquoted chars) :=
  decidable_of_iff (chars.all fun c => !isQuote c) (by simp [Unquoted])

/-- How a lexeme is written. -/
def Lexeme.spelling : Lexeme → List Char
  | .bare c => [c]
  | .quoted quote content => quote :: replaceChar quote [quote, quote] content ++ [quote]

/-- How lexemes are written in a row. -/
def spell (lexemes : List Lexeme) : List Char := lexemes.flatMap Lexeme.spelling

/-- A text outside of quotes. -/
def bares (chars : List Char) : List Lexeme := chars.map Lexeme.bare

/-- Where a reader stands: outside of quotes, within them, or behind a quote that may be the first of two. What was
read within quotes is kept in reverse. -/
inductive Stand where
  | outside
  | inside (quote : Char) (content : List Char)
  | behind (quote : Char) (content : List Char)

/-- Reads lexemes from where a reader stands. A part that is not closed cannot be read. -/
def lexFrom : Stand → List Char → Option (List Lexeme)
  | .outside, [] => some []
  | .inside _ _, [] => none
  | .behind quote content, [] => some [.quoted quote content.reverse]
  | .outside, c :: rest =>
    if isQuote c then lexFrom (.inside c []) rest else (lexFrom .outside rest).map (.bare c :: ·)
  | .inside quote content, c :: rest =>
    if c = quote then lexFrom (.behind quote content) rest else lexFrom (.inside quote (c :: content)) rest
  | .behind quote content, c :: rest =>
    if c = quote then lexFrom (.inside quote (quote :: content)) rest
    else (if isQuote c then lexFrom (.inside c []) rest
      else (lexFrom .outside rest).map (.bare c :: ·)).map (.quoted quote content.reverse :: ·)

/-- The lexemes of a text. -/
def lex (chars : List Char) : Option (List Lexeme) := lexFrom .outside chars

/-- Holds of rows that do not begin with a quoted part. -/
def StartsBare : List Lexeme → Prop
  | .quoted _ _ :: _ => False
  | _ => True

/-- Holds of rows that can be read back: no quote stands outside, and something bare behind each quoted part. -/
def Spaced : List Lexeme → Prop
  | [] => True
  | .bare c :: rest => isQuote c = false ∧ Spaced rest
  | .quoted quote _ :: rest => isQuote quote = true ∧ StartsBare rest ∧ Spaced rest

variable {lexemes more : List Lexeme}

theorem spell_append (lexemes more : List Lexeme) : spell (lexemes ++ more) = spell lexemes ++ spell more :=
  List.flatMap_append

theorem spell_cons (lexeme : Lexeme) (rest : List Lexeme) : spell (lexeme :: rest) = lexeme.spelling ++ spell rest :=
  List.flatMap_cons

theorem spell_bares (chars : List Char) : spell (bares chars) = chars := by
  induction chars with
  | nil => rfl
  | cons c rest ih => simpa [spell, bares, Lexeme.spelling] using ih

/-- Within quotes a quote is written twice and everything else once. -/
theorem lexFrom_inside (quote : Char) (content chars rest : List Char) :
    lexFrom (.inside quote content) (replaceChar quote [quote, quote] chars ++ rest) =
      lexFrom (.inside quote (chars.reverse ++ content)) rest := by
  induction chars generalizing content with
  | nil => rfl
  | cons c chars ih =>
    by_cases doubled : c = quote
    · subst doubled
      have next := ih (c :: content)
      simpa [replaceChar, lexFrom] using next
    · have next := ih (c :: content)
      simpa [replaceChar, lexFrom, doubled] using next

/-- A quote is the last one when the same quote does not follow. -/
theorem lexFrom_behind {quote : Char} {rest : List Char} (single : rest.head? ≠ some quote) (content : List Char) :
    lexFrom (.behind quote content) rest = (lexFrom .outside rest).map (.quoted quote content.reverse :: ·) := by
  cases rest with
  | nil => rfl
  | cons c rest =>
    have other : c ≠ quote := by simpa using single
    simp only [lexFrom, other, ↓reduceIte]

theorem head?_spell (bare : StartsBare lexemes) (spaced : Spaced lexemes) {quote : Char}
    (quotes : isQuote quote = true) : (spell lexemes).head? ≠ some quote := by
  cases lexemes with
  | nil => simp [spell]
  | cons lexeme rest =>
    cases lexeme with
    | quoted other content => exact bare.elim
    | bare c =>
      rintro ⟨⟩
      rw [spaced.1] at quotes
      cases quotes

/-- Lexemes are read back from their spelling. -/
theorem lex_spell (spaced : Spaced lexemes) : lex (spell lexemes) = some lexemes := by
  induction lexemes with
  | nil => rfl
  | cons lexeme rest ih =>
    cases lexeme with
    | bare c =>
      obtain ⟨plain, later⟩ := spaced
      change lexFrom .outside (c :: spell rest) = _
      have read : lexFrom .outside (spell rest) = some rest := ih later
      simp [lexFrom, plain, read]
    | quoted quote content =>
      obtain ⟨quotes, bare, later⟩ := spaced
      have shape : spell (.quoted quote content :: rest) =
          quote :: (replaceChar quote [quote, quote] content ++ quote :: spell rest) := by
        simp [spell, Lexeme.spelling]
      have read : lexFrom .outside (spell rest) = some rest := ih later
      calc
        lex (spell (.quoted quote content :: rest))
          = lexFrom (.inside quote []) (replaceChar quote [quote, quote] content ++ quote :: spell rest) := by
            simp [lex, shape, lexFrom, quotes]
        _ = lexFrom (.inside quote content.reverse) (quote :: spell rest) := by
            rw [lexFrom_inside, List.append_nil]
        _ = lexFrom (.behind quote content.reverse) (spell rest) := by simp [lexFrom]
        _ = (lexFrom .outside (spell rest)).map (.quoted quote content :: ·) := by
            rw [lexFrom_behind (head?_spell bare later quotes), List.reverse_reverse]
        _ = some (.quoted quote content :: rest) := by rw [read]; rfl

theorem spaced_bares {chars : List Char} (plain : Unquoted chars) : Spaced (bares chars) := by
  induction chars with
  | nil => trivial
  | cons c rest ih =>
    exact ⟨plain c List.mem_cons_self, ih fun other member => plain other (List.mem_cons_of_mem c member)⟩

theorem startsBare_append (first : StartsBare lexemes) (second : StartsBare more) : StartsBare (lexemes ++ more) := by
  cases lexemes with
  | nil => exact second
  | cons lexeme rest => cases lexeme <;> exact first

theorem spaced_append (first : Spaced lexemes) (second : Spaced more) (bare : StartsBare more) :
    Spaced (lexemes ++ more) := by
  induction lexemes with
  | nil => exact second
  | cons lexeme rest ih =>
    cases lexeme with
    | bare c => exact ⟨first.1, ih first.2⟩
    | quoted quote content => exact ⟨first.1, startsBare_append first.2.1 bare, ih first.2.2⟩

/-- Behind something bare anything can stand. -/
theorem spaced_bares_append {chars : List Char} (plain : Unquoted chars) (rest : Spaced more) :
    Spaced (bares chars ++ more) := by
  induction chars with
  | nil => exact rest
  | cons c chars ih =>
    exact ⟨plain c List.mem_cons_self, ih fun other member => plain other (List.mem_cons_of_mem c member)⟩

/-- Words with something bare between them. -/
theorem spaced_intercalate {words : List (List Lexeme)} {separator : Char} (plain : isQuote separator = false)
    (spaced : ∀ word ∈ words, Spaced word) : Spaced ([.bare separator].intercalate words) := by
  induction words with
  | nil => trivial
  | cons word rest ih =>
    have later := ih fun other member => spaced other (List.mem_cons_of_mem word member)
    cases rest with
    | nil => simpa using spaced word
    | cons next rest =>
      rw [List.intercalate_cons_cons, List.append_assoc]
      exact spaced_append (spaced word List.mem_cons_self) ⟨plain, later⟩ trivial

theorem spell_intercalate (separator : List Lexeme) (words : List (List Lexeme)) :
    spell (separator.intercalate words) = (spell separator).intercalate (words.map spell) := by
  induction words with
  | nil => rfl
  | cons word rest ih =>
    cases rest with
    | nil => simp
    | cons next rest =>
      rw [List.intercalate_cons_cons, spell_append, spell_append, ih]
      simp only [List.map_cons, List.intercalate_cons_cons]

section Rows

variable {α : Type} {separator : List α}

theorem intercalate_append {first second : List (List α)} (some : first ≠ []) (more : second ≠ []) :
    separator.intercalate (first ++ second) =
      separator.intercalate first ++ separator ++ separator.intercalate second := by
  induction first with
  | nil => exact absurd rfl some
  | cons word rest ih =>
    cases rest with
    | nil => rw [List.singleton_append, List.intercalate_cons_of_ne_nil more, List.intercalate_singleton]
    | cons next rest =>
      rw [List.cons_append, List.intercalate_cons_of_ne_nil (by simp), ih (by simp),
        List.intercalate_cons_cons]
      simp only [List.append_assoc]

/-- Rows that are joined with the same separator as their items are one row. -/
theorem intercalate_flatten {rows : List (List (List α))} (some : ∀ row ∈ rows, row ≠ []) :
    separator.intercalate (rows.map separator.intercalate) = separator.intercalate rows.flatten := by
  induction rows with
  | nil => rfl
  | cons row rest ih =>
    have later := ih fun other member => some other (List.mem_cons_of_mem row member)
    cases rest with
    | nil => simp
    | cons next rest =>
      have filled : (next :: rest).flatten ≠ [] := by
        have inner := some next (by simp)
        simp [inner]
      rw [List.flatten_cons, intercalate_append (some row List.mem_cons_self) filled, ← later]
      simp only [List.map_cons, List.intercalate_cons_cons]

/-- A separator of two parts, the second of which is taken into the items. -/
theorem intercalate_pair (first second : α) (item : List α) (items : List (List α)) :
    [first, second].intercalate (item :: items) = [first].intercalate (item :: items.map (second :: ·)) := by
  induction items generalizing item with
  | nil => simp
  | cons next rest ih =>
    rw [List.intercalate_cons_cons, ih next, List.map_cons, List.intercalate_cons_cons,
      List.intercalate_cons_cons_left]
    simp

theorem not_mem_intercalate {a : α} {items : List (List α)} (apart : a ∉ separator) (none : ∀ item ∈ items, a ∉ item) :
    a ∉ separator.intercalate items := by
  induction items with
  | nil => exact List.not_mem_nil
  | cons item rest ih =>
    have later := ih fun other member => none other (List.mem_cons_of_mem item member)
    have first := none item List.mem_cons_self
    cases rest with
    | nil => simpa using first
    | cons next rest =>
      rw [List.intercalate_cons_cons]
      simp [first, apart, later]

end Rows

end DataLayer.Text

/-! Numbers are words outside of quotes: their texts have no quotes, blanks or commas. -/

namespace DataLayer

open DataLayer.Text

namespace Text

/-- Holds of the characters that a word outside of quotes can have in a row of words. -/
def isSolid (c : Char) : Bool := !isQuote c && c != ' ' && c != ','

/-- Holds of rows of such characters. -/
def Solid (chars : List Char) : Prop := ∀ c ∈ chars, isSolid c = true

instance (chars : List Char) : Decidable (Solid chars) := decidable_of_iff (chars.all isSolid) List.all_eq_true

theorem solid_append {first second : List Char} (one : Solid first) (two : Solid second) : Solid (first ++ second) := by
  intro c member
  rcases List.mem_append.mp member with early | late
  · exact one c early
  · exact two c late

theorem solid_cons {c : Char} {rest : List Char} (first : isSolid c = true) (later : Solid rest) : Solid (c :: rest) :=
  List.forall_mem_cons.mpr ⟨first, later⟩

theorem solid_replicate {c : Char} (solid : isSolid c = true) (count : Nat) : Solid (List.replicate count c) := by
  intro other member
  rw [List.eq_of_mem_replicate member]
  exact solid

theorem solid_of_subset {part chars : List Char} (subset : part ⊆ chars) (solid : Solid chars) : Solid part :=
  fun c member => solid c (subset member)

theorem solid_of_isDigit {c : Char} (digit : c.isDigit = true) : isSolid c = true := by
  have apart (other : Char) (letter : other.isDigit = false) : c ≠ other := by
    rintro rfl
    rw [digit] at letter
    cases letter
  simp [isSolid, isQuote, apart '\x60' rfl, apart '\x27' rfl, apart ' ' rfl, apart ',' rfl]

theorem solid_toDigits (n : Nat) : Solid (Nat.toDigits 10 n) :=
  fun _ member => solid_of_isDigit (Nat.isDigit_of_mem_toDigits (by decide) (by decide) member)

theorem solid_decimal (n : Nat) : Solid (decimal n).toList := by
  rw [decimal, String.toList_ofList]
  exact solid_toDigits n

theorem solid_signedDecimal (n : Int) : Solid (signedDecimal n).toList := by
  cases n with
  | ofNat n => exact solid_decimal n
  | negSucc n =>
    rw [signedDecimal, String.toList_append]
    exact solid_append (by decide) (solid_decimal (n + 1))

theorem solid_padded (width n : Nat) : Solid (padded width n).toList := by
  rw [padded, String.toList_ofList]
  exact solid_append (solid_replicate rfl _) (solid_toDigits n)

end Text

namespace Binary64

theorem solid_positional {digits : List Char} (solid : Solid digits) (point : Int) :
    Solid (positional digits point) := by
  unfold positional
  dsimp only
  split
  · exact solid_cons rfl (solid_cons rfl (solid_append (solid_replicate rfl _) solid))
  · refine solid_append (solid_append ?_ (solid_replicate rfl _)) (solid_cons rfl ?_)
    · exact solid_of_subset (List.take_subset _ _) solid
    · split
      · exact solid_cons rfl nofun
      · exact solid_of_subset (List.drop_subset _ _) solid

theorem solid_exponential {digits : List Char} (solid : Solid digits) (exponent : Int) :
    Solid (exponential digits exponent) := by
  unfold exponential
  refine solid_append ?_ (solid_cons rfl (solid_cons ?_ (solid_padded 2 _)))
  · split
    · exact nofun
    · exact solid
    · next digit rest =>
      obtain ⟨first, later⟩ := List.forall_mem_cons.mp solid
      exact solid_cons first (solid_cons rfl later)
  · split <;> rfl

/-- The text of a floating-point number is one word. -/
theorem solid_text (x : Binary64) : Solid x.text.toList := by
  have signed {body : List Char} (solid : Solid body) (negative : Bool) :
      Solid (String.ofList (if negative then '-' :: body else body)).toList := by
    rw [String.toList_ofList]
    cases negative with
    | true => exact solid_cons rfl solid
    | false => exact solid
  unfold text
  cases x.reading with
  | undefined => decide
  | infinite negative => cases negative <;> decide
  | finite negative magnitude scale =>
    refine signed ?_ negative
    by_cases zero : magnitude = 0
    · rw [if_pos zero]
      decide
    · rw [if_neg zero]
      generalize Shortest.shortest magnitude scale = pair
      obtain ⟨digits, ten⟩ := pair
      dsimp only
      split
      · exact solid_positional (solid_decimal digits) _
      · exact solid_exponential (solid_decimal digits) _

end Binary64
end DataLayer
