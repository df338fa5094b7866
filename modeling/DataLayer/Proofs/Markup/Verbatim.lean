import DataLayer.Proofs.Markup.Reading
import DataLayer.Proofs.Terminal.Filling

/-! Texts that are read as they stand. A bracketed tag is taken out of a text, a backslash before a bracket is, and a
name between colons may give way to a picture. Main statement: what is read of a text without these is the text, and a
text of which every bracket and backslash is read has no tags. -/

namespace DataLayer.Markup

open DataLayer.Terminal DataLayer.Text

/-- Holds of characters that are read as they stand: no tag stands in them, no backslash keeps a bracket, no name
stands for a picture, and none of them is passed over that can be seen. -/
structure Verbatim (chars : List Char) : Prop where
  untagged : Untagged chars
  unkept : unescaped chars = chars
  unpictured : withPictures chars = chars
  heard : ∀ c ∈ chars, isSilent c = true → isBlank c = true

theorem untagged_cons {c : Char} {rest : List Char} (bare : isBare c = true) (untagged : Untagged rest) : Untagged (c :: rest) := by
  intro part later
  rcases List.suffix_cons_iff.mp later with rfl | inner
  · exact bracket?_bare bare rest
  · exact untagged part inner

theorem unescaped_cons {c : Char} (bare : isBare c = true) (rest : List Char) :
    unescaped (c :: rest) = c :: unescaped rest := by
  rw [unescaped]
  rintro rest' rfl
  exact absurd bare (by decide)

namespace Verbatim

variable {rest : List Char}

theorem written_eq (verbatim : Verbatim rest) : written (unescaped rest) = rest.filter fun c => !isSilent c := by
  unfold written
  rw [verbatim.unkept, verbatim.unpictured]

/-- All that can be seen of them is read. -/
theorem ink_read (verbatim : Verbatim rest) : ink (written (unescaped rest)) = ink rest := by
  rw [verbatim.written_eq]
  unfold ink
  rw [List.filter_filter]
  refine List.filter_congr fun c member => ?_
  cases silent : isSilent c with
  | false => simp
  | true => simp [verbatim.heard c member silent]

theorem nil : Verbatim [] := ⟨untagged_of_bare nofun, rfl, by rw [withPictures], nofun⟩

/-- Characters that mean nothing but themselves may stand before. -/
theorem cons (verbatim : Verbatim rest) {c : Char} (bare : isBare c = true) (plain : c ≠ ':')
    (heard : isSilent c = false) : Verbatim (c :: rest) where
  untagged := untagged_cons bare verbatim.untagged
  unkept := by rw [unescaped_cons bare, verbatim.unkept]
  unpictured := by rw [withPictures, if_neg plain, verbatim.unpictured]
  heard := List.forall_mem_cons.mpr ⟨fun silent => absurd (heard.symm.trans silent) nofun, verbatim.heard⟩

/-- So may a colon before a space. -/
theorem colon (verbatim : Verbatim rest) : Verbatim (':' :: ' ' :: rest) := by
  have spaced := verbatim.cons (show isBare ' ' = true by decide) (by decide) (by decide)
  refine ⟨untagged_cons (by decide) spaced.untagged, ?_, ?_, ?_⟩
  · rw [unescaped_cons (by decide), spaced.unkept]
  · have read := @withPictures_colon [] rest ' ' nofun (by decide)
    rw [List.nil_append, List.nil_append, spaced.unpictured] at read
    exact read
  · exact List.forall_mem_cons.mpr ⟨fun silent => absurd silent (by decide), spaced.heard⟩

end Verbatim

/-- Holds of characters that mean nothing but themselves, with spaces after their colons. -/
def isLeading : List Char → Bool
  | [] => true
  | ':' :: ' ' :: rest => isLeading rest
  | c :: rest => isBare c && c != ':' && !isSilent c && isLeading rest

/-- Such characters leave what follows them as it is. -/
theorem Verbatim.led {front rest : List Char} (verbatim : Verbatim rest) (leading : isLeading front = true) :
    Verbatim (front ++ rest) := by
  fun_induction isLeading front with
  | case1 => exact verbatim
  | case2 front ih => exact (ih leading).colon
  | case3 c front _ ih =>
    simp only [Bool.and_eq_true, bne_iff_ne, Bool.not_eq_true'] at leading
    obtain ⟨⟨⟨bare, plain⟩, heard⟩, later⟩ := leading
    exact (ih later).cons bare plain heard

theorem isBare_of_leading {front : List Char} (leading : isLeading front = true) : ∀ c ∈ front, isBare c = true := by
  fun_induction isLeading front with
  | case1 => nofun
  | case2 front ih =>
    exact List.forall_mem_cons.mpr ⟨by decide, List.forall_mem_cons.mpr ⟨by decide, ih leading⟩⟩
  | case3 c front _ ih =>
    simp only [Bool.and_eq_true] at leading
    exact List.forall_mem_cons.mpr ⟨leading.1.1.1, ih leading.2⟩

/-! What is read of any text. -/

/-- What is read of a piece. -/
def spoken : Piece → List Char
  | .plain chars => written (unescaped chars)
  | .tag _ => []

/-- What is read of characters. -/
def said (chars : List Char) : List Char := (piecesAfter [] chars).flatMap spoken

theorem close_reversed {progress next : Progress} {found : OpenTag × List OpenTag}
    (closed : progress.close found = .ok next) : next.reversed = progress.reversed := by
  unfold Progress.close at closed
  rcases shut : found.1.close progress.length with misuse | span
  · rw [shut] at closed
    cases closed
  · rw [shut] at closed
    cases closed
    rfl

/-- A tag is not read itself. -/
theorem withTag_reversed {progress next : Progress} {content : List Char}
    (added : progress.withTag content = .ok next) : next.reversed = progress.reversed := by
  unfold Progress.withTag at added
  split at added
  · dsimp only at added
    split at added
    · split at added
      · cases added
      · exact close_reversed added
    · rename_i name _ wanted
      rcases normal : normalName (strip (String.ofList name)) with misuse | known
      · rw [normal] at added
        cases added
      · rw [normal, ok_bind] at added
        split at added
        · exact close_reversed added
        · cases added
  · rcases normal : normalName (String.ofList (tagName content)) with misuse | known
    · rw [normal] at added
      cases added
    · rw [normal] at added
      cases added
      rfl

theorem add_reversed {progress next : Progress} {piece : Piece} (added : progress.add piece = .ok next) :
    next.reversed.reverse = progress.reversed.reverse ++ spoken piece := by
  cases piece with
  | plain chars =>
    rw [Progress.add_plain] at added
    cases added
    simp [Progress.withChars, spoken]
  | tag content => rw [withTag_reversed added, spoken, List.append_nil]

theorem foldlM_reversed {progress last : Progress} {pieces : List Piece}
    (read : pieces.foldlM Progress.add progress = .ok last) :
    last.reversed.reverse = progress.reversed.reverse ++ pieces.flatMap spoken := by
  induction pieces generalizing progress with
  | nil =>
    cases read
    simp
  | cons piece rest ih =>
    rw [List.foldlM_cons] at read
    rcases added : progress.add piece with misuse | next
    · rw [added] at read
      cases read
    · rw [added] at read
      rw [ih read, add_reversed added, List.flatMap_cons, List.append_assoc]

/-- The characters of a text that can be read. -/
theorem ofText_chars {text : String} {marked : Marked} (read : Marked.ofText text = .ok marked) :
    marked.chars = said text.toList := by
  unfold Marked.ofText at read
  rcases folded : (pieces text).foldlM Progress.add {} with misuse | last
  · rw [folded] at read
    cases read
  · rw [folded] at read
    cases read
    exact (foldlM_reversed folded).trans (List.nil_append _)

/-- A tag that closes nothing cannot be read. -/
theorem add_stray {progress : Progress} (opened : progress.opened = []) (content : List Char) :
    ∃ misuse, progress.add (.tag ('/' :: content)) = .error misuse := by
  have name : tagName ('/' :: content) = '/' :: tagName content := by
    unfold tagName
    rw [List.takeWhile_cons_of_pos (by decide)]
  unfold Progress.add Progress.withTag
  dsimp only
  rw [name, opened]
  split
  next other _ =>
    split
    · exact ⟨_, rfl⟩
    · rcases normalName (strip (String.ofList other)) with misuse | known
      · exact ⟨misuse, rfl⟩
      · rw [ok_bind]
        exact ⟨_, rfl⟩
  next none => exact absurd rfl (none _)

/-! Tags are lost. -/

/-- Holds of the characters that reading takes out of a text, but for colons. -/
def isMark (c : Char) : Bool := c == '[' || c == '\\' || c.toNat == 7 || c.toNat == 8

/-- The number of marks in a row of characters. -/
def marks (chars : List Char) : Nat := chars.countP isMark

/-- Holds of rows of characters in which no colon is followed by another one with nothing but a name between. -/
def Unnamed : List Char → Prop
  | [] => True
  | c :: rest => (c = ':' → (rest.dropWhile isNameChar).head? ≠ some ':') ∧ Unnamed rest

theorem withPictures_unnamed {chars : List Char} (unnamed : Unnamed chars) : withPictures chars = chars := by
  induction chars with
  | nil => rw [withPictures]
  | cons c rest ih =>
    obtain ⟨here, later⟩ := unnamed
    rw [withPictures]
    split
    next colon =>
      split
      next after closing => exact absurd (by rw [closing]; rfl) (here colon)
      next => rw [ih later]
    next => rw [ih later]

theorem Unnamed.right {front rest : List Char} (unnamed : Unnamed (front ++ rest)) : Unnamed rest := by
  induction front with
  | nil => exact unnamed
  | cons c front ih => exact ih unnamed.2

theorem Unnamed.left {front rest : List Char} (unnamed : Unnamed (front ++ rest)) : Unnamed front := by
  induction front with
  | nil => trivial
  | cons c front ih =>
    refine ⟨fun colon closing => unnamed.1 colon ?_, ih unnamed.2⟩
    obtain ⟨after, ended⟩ := List.head?_eq_some_iff.mp closing
    change ((front ++ rest).dropWhile isNameChar).head? = some ':'
    rw [List.dropWhile_append, ended]
    rfl

theorem unnamed_of_plain {chars : List Char} (plain : ':' ∉ chars) : Unnamed chars := by
  induction chars with
  | nil => trivial
  | cons c rest ih =>
    obtain ⟨here, later⟩ := List.ne_and_not_mem_of_not_mem_cons plain
    exact ⟨fun colon => absurd colon.symm here, ih later⟩

theorem Unnamed.led {front rest : List Char} (unnamed : Unnamed rest) (leading : isLeading front = true) :
    Unnamed (front ++ rest) := by
  fun_induction isLeading front with
  | case1 => exact unnamed
  | case2 front ih =>
    refine ⟨fun _ closing => ?_, fun space => absurd space (by decide), ih leading⟩
    have blank : isNameChar ' ' = false := by decide
    change ((' ' :: (front ++ rest)).dropWhile isNameChar).head? = some ':' at closing
    rw [List.dropWhile_cons, blank] at closing
    cases closing
  | case3 c front _ ih =>
    simp only [Bool.and_eq_true, bne_iff_ne] at leading
    exact ⟨fun colon => absurd colon leading.1.1.2, ih leading.2⟩

theorem head_dropWhile_unescaped (chars : List Char) :
    ((unescaped chars).dropWhile isNameChar).head? = (chars.dropWhile isNameChar).head? := by
  have slash : isNameChar '\\' = true := by decide
  have opens : isNameChar '[' = true := by decide
  fun_induction unescaped chars with
  | case1 rest ih => rw [List.dropWhile_cons, List.dropWhile_cons, List.dropWhile_cons, if_pos opens, if_pos slash, if_pos opens, ih]
  | case2 c rest _ ih =>
    rw [List.dropWhile_cons, List.dropWhile_cons]
    split
    · exact ih
    · rfl
  | case3 => rfl

theorem Unnamed.unescaped {chars : List Char} (unnamed : Unnamed chars) : Unnamed (unescaped chars) := by
  fun_induction Markup.unescaped chars with
  | case1 rest ih => exact ⟨fun colon => absurd colon (by decide), ih unnamed.2.2⟩
  | case2 c rest _ ih =>
    refine ⟨fun colon => ?_, ih unnamed.2⟩
    rw [head_dropWhile_unescaped]
    exact unnamed.1 colon
  | case3 => trivial

theorem marks_append (first second : List Char) : marks (first ++ second) = marks first + marks second :=
  List.countP_append

theorem marks_unescaped (chars : List Char) :
    marks (unescaped chars) ≤ marks chars ∧ (marks (unescaped chars) = marks chars → unescaped chars = chars) := by
  fun_induction unescaped chars with
  | case1 rest ih =>
    have slash : isMark '\\' = true := by decide
    simp only [marks, List.countP_cons, slash] at ih ⊢
    refine ⟨by omega, fun same => ?_⟩
    simp only [↓reduceIte] at same
    omega
  | case2 c rest _ ih =>
    simp only [marks, List.countP_cons] at ih ⊢
    refine ⟨by omega, fun same => ?_⟩
    rw [ih.2 (by omega)]
  | case3 => exact ⟨Nat.le_refl _, fun _ => rfl⟩

/-- What is written has no more marks, and as many only where all of it is heard. -/
theorem marks_written {chars : List Char} (unnamed : Unnamed chars) :
    marks (written chars) ≤ marks chars ∧
      (marks (written chars) = marks chars → ∀ c ∈ chars, isSilent c = true → isBlank c = true) := by
  unfold written
  rw [withPictures_unnamed unnamed]
  refine ⟨List.filter_sublist.countP_le, fun same c member silent => ?_⟩
  unfold marks at same
  rw [List.countP_eq_length_filter, List.countP_eq_length_filter] at same
  have kept := (List.filter_sublist.filter isMark).eq_of_length same
  have unmarked : isMark c = false := by
    refine Bool.eq_false_iff.mpr fun marked => ?_
    have there : c ∈ chars.filter isMark := List.mem_filter.mpr ⟨member, marked⟩
    rw [← kept] at there
    have heard := (List.mem_filter.mp (List.mem_filter.mp there).1).2
    rw [silent] at heard
    cases heard
  simp only [isMark, isSilent, isBlank, blankRanges] at unmarked silent ⊢
  simp at unmarked silent ⊢
  omega

/-- The parts of a bracketed tag. -/
theorem bracket?_spelled {chars : List Char} {bracket : Bracket chars} (found : bracket? chars = some bracket) :
    chars = List.replicate bracket.slashes '\\' ++ '[' :: (bracket.content ++ ']' :: bracket.rest) := by
  have slashes : chars.takeWhile (· == '\\') = List.replicate (chars.takeWhile (· == '\\')).length '\\' :=
    List.eq_replicate_iff.mpr ⟨rfl, fun c member => by simpa using List.mem_takeWhile_imp member⟩
  unfold bracket? at found
  split at found
  next c tail opened =>
    split at found
    next rest closed =>
      split at found
      · cases found
        dsimp only
        rw [← slashes, List.cons_append, ← closed, List.takeWhile_append_dropWhile, ← opened,
          List.takeWhile_append_dropWhile]
      · cases found
    next => cases found
  next => cases found

/-- Characters are without tags, or there is a first one. -/
theorem untagged_or_tagged (chars : List Char) :
    Untagged chars ∨ ∃ front tail, ∃ bracket : Bracket tail, chars = front ++ tail ∧ bracket? tail = some bracket ∧
      ∀ part, part <:+ front → part ≠ [] → bracket? (part ++ tail) = none := by
  induction chars with
  | nil => exact .inl (untagged_of_bare nofun)
  | cons c rest ih =>
    rcases here : bracket? (c :: rest) with - | bracket
    · rcases ih with untagged | ⟨front, tail, bracket, rfl, found, clear⟩
      · left
        intro part later
        rcases List.suffix_cons_iff.mp later with rfl | inner
        · exact here
        · exact untagged part inner
      · refine .inr ⟨c :: front, tail, bracket, rfl, found, fun part later filled => ?_⟩
        rcases List.suffix_cons_iff.mp later with rfl | inner
        · exact here
        · exact clear part inner filled
    · refine .inr ⟨[], c :: rest, bracket, rfl, here, fun part later filled => ?_⟩
      exact absurd (List.suffix_nil.mp later) filled

/-- Characters without tags are read as a whole. -/
theorem said_untagged {chars : List Char} (untagged : Untagged chars) : said chars = written (unescaped chars) := by
  unfold said
  by_cases filled : chars = []
  · subst filled
    rw [piecesAfter]
    exact (show written [] = [] by rw [written, withPictures]; rfl).symm
  · rw [piecesAfter_plain untagged filled]
    exact List.append_nil _

/-- What stands before the first tag is read as a whole, and what stands after it as by itself. -/
theorem said_tagged {front tail : List Char} {bracket : Bracket tail} (found : bracket? tail = some bracket)
    (clear : ∀ part, part <:+ front → part ≠ [] → bracket? (part ++ tail) = none) :
    said (front ++ tail) = written (unescaped front) ++ (bracket.pieces.flatMap spoken ++ said bracket.rest) := by
  unfold said
  rw [piecesAfter_clear clear, List.append_nil]
  cases tail with
  | nil => cases found
  | cons c tail =>
    rw [piecesAfter, found]
    dsimp only
    rw [List.flatMap_append, List.flatMap_append, List.append_assoc]
    congr 1
    by_cases filled : front = []
    · subst filled
      exact (show written [] = [] by rw [written, withPictures]; rfl).symm
    · obtain ⟨last, before, turned⟩ := List.exists_cons_of_ne_nil (List.reverse_ne_nil_iff.mpr filled)
      have whole : front = (last :: before).reverse := by rw [← turned, List.reverse_reverse]
      rw [turned, whole]
      exact List.append_nil _

theorem marks_read {chars : List Char} (unnamed : Unnamed chars) :
    marks (written (unescaped chars)) ≤ marks chars ∧
      (marks (written (unescaped chars)) = marks chars →
        unescaped chars = chars ∧ ∀ c ∈ chars, isSilent c = true → isBlank c = true) := by
  obtain ⟨fewer, kept⟩ := marks_unescaped chars
  obtain ⟨fewer', heard⟩ := marks_written unnamed.unescaped
  refine ⟨fewer'.trans fewer, fun same => ?_⟩
  have whole := kept (by omega)
  rw [whole] at heard same
  exact ⟨whole, heard same⟩

/-- A tag loses a mark, whether it is read as one or not. -/
theorem marks_bracket {tail : List Char} {bracket : Bracket tail} (found : bracket? tail = some bracket)
    (unnamed : Unnamed tail) : marks (bracket.pieces.flatMap spoken) + marks bracket.rest < marks tail := by
  have spelled := bracket?_spelled found
  have slashes (count : Nat) : marks (List.replicate count '\\') = count := by
    have slash : isMark '\\' = true := by decide
    rw [marks, List.countP_replicate, if_pos slash]
  have kept : marks (written (unescaped (List.replicate (bracket.slashes / 2) '\\'))) ≤ bracket.slashes / 2 := by
    have plain : ':' ∉ List.replicate (bracket.slashes / 2) '\\' :=
      fun member => absurd (List.eq_of_mem_replicate member) (by decide)
    have read := (marks_read (unnamed_of_plain plain)).1
    rwa [slashes] at read
  have content : marks (written (unescaped ('[' :: bracket.content ++ [']']))) ≤ 1 + marks bracket.content := by
    have inside : Unnamed ('[' :: bracket.content ++ [']']) := by
      rw [spelled] at unnamed
      have right := unnamed.right
      rw [show '[' :: (bracket.content ++ ']' :: bracket.rest) = ('[' :: bracket.content ++ [']']) ++ bracket.rest by simp]
        at right
      exact right.left
    have read := (marks_read inside).1
    have whole : marks ('[' :: bracket.content ++ [']']) = 1 + marks bracket.content := by
      have opens : isMark '[' = true := by decide
      have closes : isMark ']' = false := by decide
      simp [marks, opens, closes, Nat.add_comm]
    rwa [whole] at read
  have total : marks tail = bracket.slashes + (1 + (marks bracket.content + marks bracket.rest)) := by
    have opens : isMark '[' = true := by decide
    have closes : isMark ']' = false := by decide
    conv_lhs => rw [spelled]
    rw [marks_append, slashes]
    simp [marks, opens, closes]
    omega
  have first : marks ((if bracket.slashes < 2 then []
      else [Piece.plain (List.replicate (bracket.slashes / 2) '\\')]).flatMap spoken) ≤ bracket.slashes / 2 := by
    split
    · exact Nat.zero_le _
    · simpa [spoken] using kept
  unfold Bracket.pieces
  rw [List.flatMap_append, marks_append]
  by_cases odd : bracket.slashes % 2 = 1
  · have second : marks ([Piece.plain ('[' :: bracket.content ++ [']'])].flatMap spoken) ≤ 1 + marks bracket.content := by
      simpa [spoken] using content
    rw [if_pos odd]
    omega
  · have second : marks ([Piece.tag bracket.content].flatMap spoken) = 0 := rfl
    rw [if_neg odd, second]
    omega

/-- What is read has no more marks than the characters, and as many only where no tag stands in them. -/
theorem marks_said {chars : List Char} (unnamed : Unnamed chars) :
    marks (said chars) ≤ marks chars ∧ (marks (said chars) = marks chars → Untagged chars) := by
  induction length : chars.length using Nat.strong_induction_on generalizing chars with
  | _ n ih =>
    subst length
    rcases untagged_or_tagged chars with untagged | ⟨front, tail, bracket, rfl, found, clear⟩
    · rw [said_untagged untagged]
      exact ⟨(marks_read unnamed).1, fun _ => untagged⟩
    · have lost := marks_bracket found unnamed.right
      have before := (marks_read unnamed.left).1
      have shorter : bracket.rest.length < (front ++ tail).length := by
        have := bracket.shorter
        rw [List.length_append]
        omega
      have unnamed' : Unnamed bracket.rest := by
        have inner := unnamed.right
        rw [bracket?_spelled found] at inner
        exact inner.right.2.right.2
      have after := (ih bracket.rest.length shorter unnamed' rfl).1
      rw [said_tagged found clear, marks_append, marks_append, marks_append]
      exact ⟨by omega, fun same => absurd same (by omega)⟩

/-- Characters whose marks are all read are read as they stand. -/
theorem verbatim_of_marks {chars : List Char} (unnamed : Unnamed chars) (same : marks (said chars) = marks chars) :
    Verbatim chars := by
  have untagged := (marks_said unnamed).2 same
  rw [said_untagged untagged] at same
  obtain ⟨unkept, heard⟩ := (marks_read unnamed).2 same
  exact ⟨untagged, unkept, withPictures_unnamed unnamed, heard⟩

/-- What follows such characters is read as it stands where all of it is. -/
theorem Verbatim.of_led {front rest : List Char} (verbatim : Verbatim (front ++ rest)) (leading : isLeading front = true)
    (unnamed : Unnamed rest) : Verbatim rest where
  untagged part later := verbatim.untagged part (later.trans (List.suffix_append front rest))
  unkept := by
    have whole := verbatim.unkept
    have bare := isBare_of_leading leading
    have split : unescaped (front ++ rest) = front ++ unescaped rest := by
      clear whole leading verbatim
      induction front with
      | nil => rfl
      | cons c front ih =>
        obtain ⟨here, later⟩ := List.forall_mem_cons.mp bare
        rw [List.cons_append, unescaped_cons here, ih later, List.cons_append]
    exact List.append_cancel_left (split.symm.trans whole)
  unpictured := withPictures_unnamed unnamed
  heard c member := verbatim.heard c (List.mem_append_right front member)

end DataLayer.Markup
