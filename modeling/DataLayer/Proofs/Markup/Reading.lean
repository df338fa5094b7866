import DataLayer.Markup.Marked
import Mathlib.Data.List.TakeWhile

/-! Marked-up text piece by piece. Characters that are no brackets and no backslashes are read as they
stand, and a bracketed tag between them is read as a tag. -/

namespace DataLayer.Markup

open DataLayer.Text

/-- Holds of characters that open no tag and keep none from being opened. -/
def isBare (c : Char) : Bool := c != '[' && c != '\\'

theorem bracket?_bare {c : Char} (bare : isBare c = true) (rest : List Char) : bracket? (c :: rest) = none := by
  have stays : (c :: rest).dropWhile (· == '\\') = c :: rest := by
    rw [List.dropWhile_cons_of_neg]
    simp_all [isBare]
  unfold bracket?
  split
  next tail opened =>
    rw [stays] at opened
    simp_all [isBare]
  next => rfl

/-- Characters at none of which a tag stands are read one by one. -/
theorem piecesAfter_clear {before chars rest : List Char}
    (clear : ∀ part, part <:+ chars → part ≠ [] → bracket? (part ++ rest) = none) :
    piecesAfter before (chars ++ rest) = piecesAfter (chars.reverse ++ before) rest := by
  induction chars generalizing before with
  | nil => rfl
  | cons c chars ih =>
    have here : bracket? (c :: (chars ++ rest)) = none := clear _ (List.suffix_refl _) (List.cons_ne_nil _ _)
    rw [List.cons_append, piecesAfter, here]
    dsimp only
    rw [ih fun part later => clear part (later.trans (List.suffix_cons c chars))]
    simp

theorem clear_of_bare {chars : List Char} (bare : ∀ c ∈ chars, isBare c = true) (rest : List Char) :
    ∀ part, part <:+ chars → part ≠ [] → bracket? (part ++ rest) = none := by
  intro part later filled
  obtain ⟨c, others, rfl⟩ := List.exists_cons_of_ne_nil filled
  exact bracket?_bare (bare c (later.subset List.mem_cons_self)) _

theorem piecesAfter_bare {before chars : List Char} (bare : ∀ c ∈ chars, isBare c = true) (rest : List Char) :
    piecesAfter before (chars ++ rest) = piecesAfter (chars.reverse ++ before) rest :=
  piecesAfter_clear (clear_of_bare bare rest)

/-- Holds of rows of characters in which no bracketed tag stands. -/
def Untagged (chars : List Char) : Prop := ∀ part, part <:+ chars → bracket? part = none

theorem untagged_of_bare {chars : List Char} (bare : ∀ c ∈ chars, isBare c = true) : Untagged chars := by
  intro part later
  by_cases filled : part = []
  · subst filled
    rfl
  · have none := clear_of_bare bare [] part later filled
    rwa [List.append_nil] at none

theorem bracket?_tag {first : Char} {content : List Char} (start : isTagStart first = true)
    (inside : ∀ c ∈ content, isTagChar c = true) (rest : List Char) :
    ∃ shorter, bracket? ('[' :: first :: (content ++ ']' :: rest)) =
      some { slashes := 0, content := first :: content, rest, shorter } := by
  have taken : (content ++ ']' :: rest).takeWhile isTagChar = content := by
    rw [List.takeWhile_append_of_pos inside]
    simp [isTagChar]
  have dropped : (content ++ ']' :: rest).dropWhile isTagChar = ']' :: rest := by
    rw [List.dropWhile_append_of_pos inside]
    simp [isTagChar]
  unfold bracket?
  split
  next c tail opened =>
    obtain ⟨-, rfl, rfl⟩ : '[' = '[' ∧ first = c ∧ content ++ ']' :: rest = tail := by simpa using opened
    split
    next other closed =>
      obtain rfl : rest = other := by simpa [dropped] using closed
      rw [if_pos start]
      refine ⟨by simp only [List.length_cons, List.length_append]; omega, ?_⟩
      simp only [taken]
      rfl
    next none => exact absurd dropped (none rest)
  next none => exact absurd rfl (none first (content ++ ']' :: rest))

/-- Characters and a tag after them are two pieces. -/
theorem piecesAfter_tag {chars : List Char} (bare : ∀ c ∈ chars, isBare c = true) (some : chars ≠ []) {first : Char}
    {content : List Char} (start : isTagStart first = true) (inside : ∀ c ∈ content, isTagChar c = true)
    (rest : List Char) :
    piecesAfter [] (chars ++ '[' :: first :: (content ++ ']' :: rest)) =
      .plain chars :: .tag (first :: content) :: piecesAfter [] rest := by
  obtain ⟨shorter, tag⟩ := bracket?_tag start inside rest
  obtain ⟨last, before, turned⟩ := List.exists_cons_of_ne_nil (List.reverse_ne_nil_iff.mpr some)
  rw [piecesAfter_bare bare, List.append_nil, turned, piecesAfter, tag, ← List.reverse_reverse chars, turned]
  rfl

/-- A text without tags is one piece. -/
theorem piecesAfter_plain {chars : List Char} (untagged : Untagged chars) (some : chars ≠ []) :
    piecesAfter [] chars = [.plain chars] := by
  obtain ⟨last, before, turned⟩ := List.exists_cons_of_ne_nil (List.reverse_ne_nil_iff.mpr some)
  have read := @piecesAfter_clear [] chars [] fun part later _ => by
    rw [List.append_nil]
    exact untagged part later
  rw [List.append_nil, List.append_nil, turned] at read
  rw [read, piecesAfter, ← List.reverse_reverse chars, turned]
  rfl

/-! The characters of plain pieces. -/

theorem unescaped_bare {chars : List Char} (bare : ∀ c ∈ chars, isBare c = true) : unescaped chars = chars := by
  induction chars with
  | nil => rfl
  | cons c chars ih =>
    obtain ⟨here, later⟩ := List.forall_mem_cons.mp bare
    unfold unescaped
    split
    next equal => simp_all [isBare]
    next equal =>
      obtain ⟨rfl, rfl⟩ := List.cons.inj equal
      rw [ih later]
    next equal => cases equal

/-- A text without colons names no pictures. -/
theorem withPictures_plain {chars : List Char} (plain : ':' ∉ chars) : withPictures chars = chars := by
  induction chars with
  | nil => rw [withPictures]
  | cons c chars ih =>
    obtain ⟨here, later⟩ := List.ne_and_not_mem_of_not_mem_cons plain
    rw [withPictures, if_neg here.symm, ih later]

/-- A colon before white space names no picture, and what stands before it is read as it is. -/
theorem withPictures_colon {front back : List Char} {blank : Char} (plain : ':' ∉ front) (white : isBlank blank = true) :
    withPictures (front ++ ':' :: blank :: back) = front ++ ':' :: withPictures (blank :: back) := by
  induction front with
  | nil =>
    have ended : (blank :: back).dropWhile isNameChar = blank :: back := by
      rw [List.dropWhile_cons_of_neg]
      simp [isNameChar, white]
    have apart : blank ≠ ':' := by
      rintro rfl
      exact absurd white (by decide)
    rw [List.nil_append, withPictures, if_pos rfl]
    split
    next after closing =>
      rw [ended] at closing
      exact absurd (List.cons.inj closing).1 apart
    next => rfl
  | cons c front ih =>
    obtain ⟨here, later⟩ := List.ne_and_not_mem_of_not_mem_cons plain
    rw [List.cons_append, withPictures, if_neg here.symm, ih later, List.cons_append]

/-! Names of styles. -/

/-- A name of a style that stands in a tag as it is: nothing in it ends the tag or says something else. -/
structure IsStyleName (name : String) : Prop where
  style : ∃ style, Style.ofText? name = .ok (some style)
  normal : normalName name = .ok name
  trimmed : strip name = name
  starts : ∃ first rest, name.toList = first :: rest ∧ ('a' ≤ first && first ≤ 'z') = true
  inside : ∀ c ∈ name.toList, isTagChar c = true ∧ c ≠ '='

namespace IsStyleName

variable {name : String}

theorem filled (isName : IsStyleName name) : name ≠ "" := by
  rintro rfl
  obtain ⟨first, rest, spelled, -⟩ := isName.starts
  cases spelled

/-- The first character of a name is a letter, and no mark. -/
theorem first_ne (isName : IsStyleName name) {c : Char} (mark : ('a' ≤ c && c ≤ 'z') = false) {rest : List Char} :
    name.toList ≠ c :: rest := by
  intro same
  obtain ⟨first, others, spelled, letter⟩ := isName.starts
  obtain ⟨rfl, -⟩ := List.cons.inj (spelled.symm.trans same)
  rw [letter] at mark
  cases mark

theorem tagName (isName : IsStyleName name) : tagName name.toList = name.toList :=
  List.takeWhile_eq_self_iff.mpr fun c member => by simpa using (isName.inside c member).2

theorem tagParameters? (isName : IsStyleName name) : tagParameters? name.toList = none := by
  unfold Markup.tagParameters?
  rw [isName.tagName, List.drop_length]

end IsStyleName

/-- Holds of names that stand in a tag as they are. -/
def isTagName (name : String) : Bool :=
  strip name == name && name.toList.head?.any (fun c => 'a' ≤ c && c ≤ 'z') &&
    name.toList.all fun c => isTagChar c && c != '='

/-- Holds of the words in a row of colours that say nothing else. -/
def isColourIn (row word : String) : Bool :=
  Text.words word.toList == [word.toList] && lower word == word && attribute? word == none && strip word != "none" &&
    (Text.words row.toList).contains word.toList

/-- A name that stands in a tag as it is names a style, where it is a normal name of one. -/
theorem isStyleName_of_normal {name : String} {style : Style} (tag : isTagName name = true)
    (known : Style.ofText? name = .ok (some style)) (normal : style.name = name) : IsStyleName name := by
  simp only [isTagName, Bool.and_eq_true, beq_iff_eq, Option.any_eq_true, List.all_eq_true, bne_iff_ne] at tag
  obtain ⟨⟨trimmed, first, starts, letter⟩, inside⟩ := tag
  obtain ⟨rest, spelled⟩ := List.head?_eq_some_iff.mp starts
  refine ⟨⟨style, known⟩, ?_, trimmed, ⟨first, rest, spelled, by simpa using letter⟩, inside⟩
  unfold normalName
  rw [known]
  exact congrArg Except.ok normal

section

variable {row word : String} (listed : row ∈ colourRows) (colour : isColourIn row word = true)

include listed colour

theorem isColour_listed : isColour word = .ok true := by
  simp only [isColourIn, Bool.and_eq_true] at colour
  have found : (colourRows.any fun row => (Text.words row.toList).contains word.toList) = true :=
    List.any_eq_true.mpr ⟨row, listed, colour.2⟩
  unfold isColour
  simp only [found, Bool.or_true, Bool.true_or]

/-- A colour is a style. -/
theorem ofText?_colour : Style.ofText? word = .ok (some { colour := some word }) := by
  have coloured := isColour_listed listed colour
  simp only [isColourIn, Bool.and_eq_true, beq_iff_eq, bne_iff_ne] at colour
  obtain ⟨⟨⟨⟨single, low⟩, free⟩, named⟩, -⟩ := colour
  unfold Style.ofText?
  rw [if_neg named, single]
  simp only [List.map_cons, List.map_nil, String.ofList_toList, Style.read, Style.withWord, low, free, coloured]
  rfl

/-- So is a colour in bold. -/
theorem ofText?_bold {name : String} (two : Text.words name.toList = ["bold".toList, word.toList])
    (named : strip name ≠ "none") (bold : lower "bold" = "bold") :
    Style.ofText? name = .ok (some { attributes := [("bold", true)], colour := some word }) := by
  have coloured := isColour_listed listed colour
  have writing : attribute? "bold" = some "bold" := rfl
  simp only [isColourIn, Bool.and_eq_true, beq_iff_eq] at colour
  obtain ⟨⟨⟨⟨-, low⟩, free⟩, -⟩, -⟩ := colour
  unfold Style.ofText?
  rw [if_neg named, two]
  simp only [List.map_cons, List.map_nil, String.ofList_toList, Style.read, Style.withWord, bold, low, writing, free,
    coloured]
  rfl

end

theorem isColourIn_rows : isColourIn colourRows[10] "green" = true ∧ isColourIn colourRows[23] "red" = true := by
  decide +kernel

theorem isTagName_styles : isTagName "green" = true ∧ isTagName "red" = true ∧ isTagName "bold red" = true := by
  decide +kernel

theorem ofText?_green : Style.ofText? "green" = .ok (some { colour := some "green" }) :=
  ofText?_colour (List.getElem_mem _) isColourIn_rows.1

theorem isStyleName_green : IsStyleName "green" := isStyleName_of_normal isTagName_styles.1 ofText?_green rfl

theorem isStyleName_red : IsStyleName "red" :=
  isStyleName_of_normal isTagName_styles.2.1 (ofText?_colour (List.getElem_mem _) isColourIn_rows.2) rfl

theorem isStyleName_boldRed : IsStyleName "bold red" := by
  have spelled : Text.words "bold red".toList = ["bold".toList, "red".toList] ∧ strip "bold red" ≠ "none" ∧
      lower "bold" = "bold" := by decide +kernel
  obtain ⟨two, named, bold⟩ := spelled
  exact isStyleName_of_normal isTagName_styles.2.2
    (ofText?_bold (List.getElem_mem _) isColourIn_rows.2 two named bold) rfl

/-! Parts that a style is set on. -/

theorem ok_bind {ε α β : Type} (value : α) (next : α → Except ε β) : (Except.ok value >>= next) = next value := rfl

/-- What is written of characters. -/
def written (chars : List Char) : List Char := (withPictures chars).filter fun c => !isSilent c

namespace Progress

variable {name : String}

theorem add_plain (progress : Progress) (chars : List Char) :
    progress.add (.plain chars) = .ok (progress.withChars (written (unescaped chars))) := rfl

theorem add_bare (progress : Progress) {chars : List Char} (bare : ∀ c ∈ chars, isBare c = true) :
    progress.add (.plain chars) = .ok (progress.withChars (written chars)) := by
  rw [add_plain, unescaped_bare bare]

theorem add_opening (progress : Progress) (isName : IsStyleName name) :
    progress.add (.tag name.toList) =
      .ok { progress with opened := { name, parameters := none, start := progress.length } :: progress.opened } := by
  unfold add withTag
  dsimp only
  rw [isName.tagName]
  split
  next rest slash => exact absurd slash (isName.first_ne (by decide))
  next =>
    rw [String.ofList_toList, isName.normal, isName.tagParameters?]
    rfl

theorem add_closing {progress : Progress} {start : Nat} {others : List OpenTag} (isName : IsStyleName name)
    (opened : progress.opened = { name, parameters := none, start } :: others) :
    progress.add (.tag ('/' :: name.toList)) =
      .ok { progress with opened := others
                          closed := { start, stop := progress.length, style := some name } :: progress.closed } := by
  have whole : Markup.tagName ('/' :: name.toList) = '/' :: name.toList := by
    unfold Markup.tagName
    rw [List.takeWhile_cons_of_pos (by decide)]
    exact congrArg _ isName.tagName
  have style : (name.toList.head? == some '@') = false := by
    obtain ⟨first, rest, spelled, -⟩ := isName.starts
    refine beq_false_of_ne fun action => ?_
    rw [spelled] at action
    exact isName.first_ne (by decide) (spelled.trans (congrArg (· :: rest) (Option.some.inj action)))
  unfold add withTag
  dsimp only
  rw [whole]
  split
  next rest slash =>
    obtain ⟨-, rfl⟩ := List.cons.inj slash
    rw [String.ofList_toList, isName.trimmed, if_neg isName.filled, isName.normal, opened]
    have found : closeNamed name ({ name, parameters := none, start } :: others) =
        some ({ name, parameters := none, start }, others) := if_pos rfl
    have closed : OpenTag.close { name, parameters := none, start } progress.length =
        .ok { start, stop := progress.length, style := some name } := by
      unfold OpenTag.close OpenTag.isAction
      rw [style]
      rfl
    rw [ok_bind, found]
    dsimp only
    unfold Progress.close
    rw [closed]
    rfl
  next other => exact absurd rfl (other name.toList)

end Progress

/-- A text of bare characters is read without parts. -/
theorem ofText_bare {text : String} (bare : ∀ c ∈ text.toList, isBare c = true) (filled : text ≠ "") :
    Marked.ofText text = .ok { chars := written text.toList, spans := [] } := by
  unfold Marked.ofText pieces
  rw [piecesAfter_plain (untagged_of_bare bare) (String.toList_eq_nil_iff.not.mpr filled)]
  rw [List.foldlM_cons, Progress.add_bare _ bare, ok_bind]
  simp [Progress.withChars, Progress.finish, pure, Except.pure, Except.map]

section

variable {name : String} {word : List Char}

/-- A tag at the start is the first piece. -/
theorem piecesAfter_opening (isName : IsStyleName name) (rest : List Char) :
    piecesAfter [] ('[' :: (name.toList ++ ']' :: rest)) = .tag name.toList :: piecesAfter [] rest := by
  obtain ⟨first, content, spelled, letter⟩ := isName.starts
  have start : isTagStart first = true := by simp [isTagStart, letter]
  have inside (c : Char) (member : c ∈ content) : isTagChar c = true :=
    (isName.inside c (spelled ▸ List.mem_cons_of_mem first member)).1
  obtain ⟨shorter, tag⟩ := bracket?_tag start inside rest
  rw [spelled, List.cons_append, piecesAfter, tag]
  rfl

/-- So is a word before the closing tag. -/
theorem piecesAfter_closing (isName : IsStyleName name) (some : word ≠ []) (bare : ∀ c ∈ word, isBare c = true)
    (rest : List Char) :
    piecesAfter [] (word ++ '[' :: '/' :: (name.toList ++ ']' :: rest)) =
      .plain word :: .tag ('/' :: name.toList) :: piecesAfter [] rest :=
  piecesAfter_tag bare some (by decide) (fun c member => (isName.inside c member).1) rest

/-- The pieces of a text with a word in a style at its end. -/
theorem pieces_styled {front : List Char} (isName : IsStyleName name) (some : front ≠ []) (some' : word ≠ [])
    (bare : ∀ c ∈ front, isBare c = true) (bare' : ∀ c ∈ word, isBare c = true) :
    piecesAfter [] (front ++ '[' :: (name.toList ++ ']' :: (word ++ '[' :: '/' :: (name.toList ++ [']'])))) =
      [.plain front, .tag name.toList, .plain word, .tag ('/' :: name.toList)] := by
  have ended : piecesAfter [] [] = [] := by
    rw [piecesAfter]
    rfl
  obtain ⟨first, content, spelled, letter⟩ := isName.starts
  have start : isTagStart first = true := by simp [isTagStart, letter]
  have inside (c : Char) (member : c ∈ content) : isTagChar c = true :=
    (isName.inside c (spelled ▸ List.mem_cons_of_mem first member)).1
  have middle := piecesAfter_tag bare some start inside (word ++ '[' :: '/' :: (name.toList ++ [']']))
  rw [piecesAfter_closing isName some' bare', ended, ← List.cons_append, ← spelled] at middle
  exact middle

/-- A text with a word in a style at its end is read with the word as its only part. -/
theorem ofText_styled {text : String} {front : List Char} (isName : IsStyleName name)
    (whole : text.toList = front ++ '[' :: (name.toList ++ ']' :: (word ++ '[' :: '/' :: (name.toList ++ [']']))))
    (some : front ≠ []) (some' : word ≠ []) (bare : ∀ c ∈ front, isBare c = true) (bare' : ∀ c ∈ word, isBare c = true) :
    Marked.ofText text = .ok {
      chars := written front ++ written word
      spans := [{ start := (written front).length, stop := (written front).length + (written word).length
                  style := name }] } := by
  unfold Marked.ofText pieces
  rw [whole, pieces_styled isName some some' bare bare']
  rw [List.foldlM_cons, Progress.add_bare _ bare, ok_bind]
  rw [List.foldlM_cons, Progress.add_opening _ isName, ok_bind]
  rw [List.foldlM_cons, Progress.add_bare _ bare', ok_bind]
  rw [List.foldlM_cons, Progress.add_closing isName rfl, ok_bind]
  simp [Progress.withChars, Progress.finish, pure, Except.pure, Except.map]

/-- A text with a word in a style at its start is read with the word as its only part. -/
theorem ofText_headed {text : String} {rest : List Char} (isName : IsStyleName name)
    (whole : text.toList = '[' :: (name.toList ++ ']' :: (word ++ '[' :: '/' :: (name.toList ++ ']' :: rest))))
    (some : word ≠ []) (some' : rest ≠ []) (bare : ∀ c ∈ word, isBare c = true) (untagged : Untagged rest) :
    Marked.ofText text = .ok {
      chars := written word ++ written (unescaped rest)
      spans := [{ start := 0, stop := (written word).length, style := name }] } := by
  unfold Marked.ofText pieces
  rw [whole, piecesAfter_opening isName, piecesAfter_closing isName some bare, piecesAfter_plain untagged some']
  rw [List.foldlM_cons, Progress.add_opening _ isName, ok_bind]
  rw [List.foldlM_cons, Progress.add_bare _ bare, ok_bind]
  rw [List.foldlM_cons, Progress.add_closing isName rfl, ok_bind]
  rw [List.foldlM_cons, Progress.add_plain, ok_bind]
  simp [Progress.withChars, Progress.finish, pure, Except.pure, Except.map]

end

end DataLayer.Markup
