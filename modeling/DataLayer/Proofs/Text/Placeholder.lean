import DataLayer.Proofs.Text.Case
import DataLayer.Text.Quoted

/-! Placeholders in a text, and what the text reads when words are put in their places from left to
right. Main statement: texts whose placeholders match their words can be joined to longer ones, and
what the whole reads is what the parts read. -/

namespace DataLayer.Text

variable {α : Type}

/-- The number of placeholders in a text. -/
def holes (text : String) : Nat := text.toList.count '?'

/-- Puts one word after the other in the place of the next placeholder. A placeholder that no word is
left for stays. -/
def fillChars : List Char → List String → List Char
  | [], _ => []
  | c :: rest, words =>
    if c = '?' then (words.head?.map String.toList).getD [c] ++ fillChars rest words.tail
    else c :: fillChars rest words

/-- A text with words in the places of its placeholders. -/
def fill (text : String) (words : List String) : String := String.ofList (fillChars text.toList words)

/-- The placeholders of a text are as many as the words, and with the words in their places it reads
like the other text. -/
structure Reads (text : String) (words : List String) (filled : String) : Prop where
  count : holes text = words.length
  same : fill text words = filled

theorem fillChars_nil (chars : List Char) : fillChars chars [] = chars := by
  induction chars with
  | nil => rfl
  | cons c rest ih => simp [fillChars, ih]

theorem fillChars_append {first : List Char} {words : List String} (count : first.count '?' = words.length)
    (rest : List Char) (more : List String) :
    fillChars (first ++ rest) (words ++ more) = fillChars first words ++ fillChars rest more := by
  induction first generalizing words with
  | nil =>
    have none : words = [] := List.length_eq_zero_iff.mp count.symm
    simp [none, fillChars]
  | cons c first ih =>
    by_cases mark : c = '?'
    · subst mark
      cases words with
      | nil => simp at count
      | cons word words =>
        rw [List.count_cons_self, List.length_cons, Nat.succ_inj] at count
        simp [fillChars, ih count]
    · rw [List.count_cons_of_ne mark] at count
      simp [fillChars, mark, ih count]

/-- A text without a placeholder. -/
def Plain (text : String) : Prop := '?' ∉ text.toList

instance (text : String) : Decidable (Plain text) := inferInstanceAs (Decidable ('?' ∉ text.toList))

theorem plain_append {first second : String} (one : Plain first) (two : Plain second) : Plain (first ++ second) := by
  simpa [Plain] using And.intro one two

theorem plain_intercalate {separator : String} {parts : List String} (apart : Plain separator)
    (plain : ∀ part ∈ parts, Plain part) : Plain (separator.intercalate parts) := by
  induction parts with
  | nil => simp [Plain]
  | cons part rest ih =>
    have later := ih fun other member => plain other (List.mem_cons_of_mem part member)
    cases rest with
    | nil => simpa using plain part
    | cons next rest =>
      rw [String.intercalate_cons_cons]
      exact plain_append (plain_append (plain part List.mem_cons_self) apart) later

theorem mark_ne_digitChar : ∀ n < 16, '?' ≠ n.digitChar := by decide

/-- No digit is a placeholder. -/
theorem mark_not_mem_toDigits {base : Nat} (several : 1 < base) (letters : base ≤ 16) (n : Nat) :
    '?' ∉ Nat.toDigits base n := by
  induction n using Nat.strongRecOn with
  | ind n ih =>
    rw [Nat.toDigits_eq_if several]
    split
    next single => simp [mark_ne_digitChar n (by omega)]
    next more =>
      have smaller : n / base < n := Nat.div_lt_self (by omega) several
      have last : n % base < base := Nat.mod_lt n (by omega)
      simp [mark_ne_digitChar _ (by omega : n % base < 16), ih _ smaller]

theorem plain_decimal (n : Nat) : Plain (decimal n) := by
  rw [Plain, decimal, String.toList_ofList]
  exact mark_not_mem_toDigits (by decide) (by decide) n

theorem plain_paddedHex (width n : Nat) : Plain (paddedHex width n) := by
  simp [Plain, paddedHex, mark_not_mem_toDigits]

theorem caseless_mark : IsCaseless '?' := by decide +kernel

/-- No letter becomes a placeholder in upper case. -/
theorem plain_upper {text : String} (plain : Plain text) : Plain (upper text) :=
  fun mark => plain (mem_of_mem_upper caseless_mark mark)

theorem mark_not_mem_numberEscape (code : Nat) : '?' ∉ numberEscape code := by
  have digits (width : Nat) := plain_paddedHex width code
  unfold Plain at digits
  unfold numberEscape
  split
  · simp [digits]
  · split <;> simp [digits]

/-- Between two quotes a placeholder stands for itself, and nothing else is shown by it. -/
theorem mark_quotedChar {quote c : Char} (apart : quote ≠ '?') : '?' ∈ quotedChar quote c ↔ c = '?' := by
  by_cases mark : c = '?'
  · subst mark
    have glyph : isPrintable '?' = true := by decide +kernel
    have bare : ('?' == quote || '?' == '\\') = false := by simpa using apart.symm
    unfold quotedChar
    rw [bare, glyph]
    simp
  · have other : '?' ≠ c := fun same => mark same.symm
    have escape := mark_not_mem_numberEscape c.toNat
    unfold quotedChar
    refine iff_of_false ?_ mark
    repeat' split
    all_goals simp [other, escape]

theorem mark_quotedByte {quote : Char} (apart : quote ≠ '?') (byte : UInt8) :
    '?' ∈ quotedByte quote byte ↔ byte = 63 := by
  unfold quotedByte
  split
  next low =>
    rw [mark_quotedChar apart]
    constructor
    · intro mark
      exact UInt8.toNat_inj.mp (toNat_of_ofNat (by decide) mark)
    · rintro rfl
      rfl
  next high =>
    have other : byte ≠ 63 := by
      rintro rfl
      exact high (by decide)
    simp [other, mark_not_mem_numberEscape]

theorem quoteFor_ne_mark (chars : List Char) : quoteFor chars ≠ '?' := by
  unfold quoteFor
  split <;> decide

theorem mark_quotedBytes (row : List UInt8) : '?' ∈ (quotedBytes row).toList ↔ 63 ∈ row := by
  have apart := quoteFor_ne_mark (row.map fun byte => Char.ofNat byte.toNat)
  simp [quotedBytes, apart.symm, mark_quotedByte apart]

namespace Reads

theorem plain {text : String} (plain : Plain text) : Reads text [] text := by
  constructor
  · exact List.count_eq_zero.mpr plain
  · rw [fill, fillChars_nil, String.ofList_toList]

theorem hole (word : String) : Reads "?" [word] word := by
  constructor
  · rfl
  · have letters : "?".toList = ['?'] := rfl
    simp [fill, letters, fillChars]

theorem append {first second filled filled' : String} {words more : List String}
    (one : Reads first words filled) (two : Reads second more filled') :
    Reads (first ++ second) (words ++ more) (filled ++ filled') := by
  constructor
  · rw [holes, String.toList_append, List.count_append, List.length_append]
    exact one.count ▸ two.count ▸ rfl
  · rw [fill, String.toList_append, fillChars_append one.count, String.ofList_append]
    exact one.same ▸ two.same ▸ rfl

end Reads

/-- A row of texts, each of which reads like its own with the words that belong to it. -/
inductive ReadsEach : List String → List String → List String → Prop where
  | nil : ReadsEach [] [] []
  | cons {text filled : String} {words more rest others : List String} (first : Reads text words filled)
      (later : ReadsEach rest more others) : ReadsEach (text :: rest) (words ++ more) (filled :: others)

namespace ReadsEach

theorem plain {texts : List String} (plain : ∀ text ∈ texts, Plain text) : ReadsEach texts [] texts := by
  induction texts with
  | nil => exact .nil
  | cons text rest ih =>
    have later := ih fun other member => plain other (List.mem_cons_of_mem text member)
    exact .cons (.plain (plain text List.mem_cons_self)) later

theorem append {texts others filled filled' words more : List String} (one : ReadsEach texts words filled)
    (two : ReadsEach others more filled') : ReadsEach (texts ++ others) (words ++ more) (filled ++ filled') := by
  induction one with
  | nil => exact two
  | cons first later ih =>
    rw [List.append_assoc]
    exact .cons first ih

theorem map {parts : List α} {text filled : α → String} {words : α → List String}
    (reads : ∀ part ∈ parts, Reads (text part) (words part) (filled part)) :
    ReadsEach (parts.map text) (parts.flatMap words) (parts.map filled) := by
  induction parts with
  | nil => exact .nil
  | cons part rest ih =>
    have later := ih fun other member => reads other (List.mem_cons_of_mem part member)
    exact .cons (reads part List.mem_cons_self) later

theorem map_single {parts : List α} {text word filled : α → String}
    (reads : ∀ part ∈ parts, Reads (text part) [word part] (filled part)) :
    ReadsEach (parts.map text) (parts.map word) (parts.map filled) := by
  have each := map reads
  rwa [← List.map_eq_flatMap] at each

/-- Texts side by side read like what each of them reads, side by side. -/
theorem intercalate {separator : String} {texts words filled : List String} (apart : Plain separator)
    (reads : ReadsEach texts words filled) :
    Reads (separator.intercalate texts) words (separator.intercalate filled) := by
  induction reads with
  | nil => exact .plain (by simp [Plain])
  | cons first later ih =>
    cases later with
    | nil => simpa using first
    | cons next rest =>
      simp only [String.intercalate_cons_cons]
      have joined := (first.append (.plain apart)).append ih
      simpa using joined

end ReadsEach
end DataLayer.Text
