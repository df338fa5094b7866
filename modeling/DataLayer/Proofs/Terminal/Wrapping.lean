import DataLayer.Terminal.Wrapping
import Mathlib.Data.List.Forall2

/-! Text that can be put into lines. A line is cut where the whole is wider than the terminal, and the cut
fails where the pieces of the line are not as wide as the whole, which only a joiner brings about. Main
statement: a text without joiners, whose styles can be read, can be put into lines of every width, and so
can the runs of each line. -/

namespace DataLayer.Terminal

open DataLayer.Markup DataLayer.Text

section

variable {ε α β : Type} {items : List α}

/-- A row is formed where each of its items is. -/
theorem mapM_formed {form : α → Except ε β} {good : β → Prop}
    (each : ∀ item ∈ items, ∃ made, form item = .ok made ∧ good made) :
    ∃ row, items.mapM form = .ok row ∧ ∀ made ∈ row, good made := by
  induction items with
  | nil => exact ⟨[], rfl, nofun⟩
  | cons item rest ih =>
    obtain ⟨made, formed, fine⟩ := each item List.mem_cons_self
    obtain ⟨row, rows, all⟩ := ih fun other member => each other (List.mem_cons_of_mem item member)
    refine ⟨made :: row, ?_, List.forall_mem_cons.mpr ⟨fine, all⟩⟩
    rw [List.mapM_cons, formed, rows]
    rfl

/-- What is formed of a row is formed item by item. -/
theorem forall₂_of_mapM {form : α → Except ε β} {row : List β} (formed : items.mapM form = .ok row) :
    List.Forall₂ (fun item made => form item = .ok made) items row := by
  induction items generalizing row with
  | nil =>
    cases formed
    exact .nil
  | cons item rest ih =>
    rw [List.mapM_cons] at formed
    rcases first : form item with fault | made
    · rw [first] at formed
      cases formed
    · rcases later : rest.mapM form with fault | others
      · rw [first, later] at formed
        cases formed
      · rw [first, later] at formed
        cases formed
        exact .cons first (ih later)

theorem forM_passed {check : α → Except ε Unit} (each : ∀ item ∈ items, check item = .ok ()) :
    items.forM check = .ok () := by
  induction items with
  | nil => rfl
  | cons item rest ih =>
    unfold List.forM
    rw [each item List.mem_cons_self]
    exact ih fun other member => each other (List.mem_cons_of_mem item member)

end

/-! Cells. Where nothing joins, the pieces of a text take as many of them as the text. -/

theorem total_cons (first : Nat) (rest : List Nat) : total (first :: rest) = first + total rest := by
  simp only [total, ← List.sum_eq_foldl_nat, List.sum_cons]

theorem total_nil : total [] = 0 := rfl

/-- Pieces after a first one take the cells of it and of what follows. -/
theorem total_graphemesAfter (piece : Grapheme) (last : Option Char) (chars : List Char) (unjoined : joiner ∉ chars) :
    total ((graphemesAfter piece last chars).map Grapheme.cells) = piece.cells + cellsAfter last chars := by
  fun_induction graphemesAfter piece last chars <;>
    simp_all [cellsAfter, total_cons, total_nil, Grapheme.extend]
  omega

theorem total_graphemes {chars : List Char} (unjoined : joiner ∉ chars) :
    total ((graphemes chars).map Grapheme.cells) = cells chars := by
  cases chars with
  | nil => rfl
  | cons c rest =>
    obtain ⟨first, later⟩ := List.ne_and_not_mem_of_not_mem_cons unjoined
    have widened : widening none = 0 := rfl
    unfold graphemes cells
    rw [total_graphemesAfter _ _ _ later]
    by_cases selects : c = selector
    · have apart : selector ≠ joiner := by decide
      cases rest <;> simp [cellsAfter, apart, selects, widened]
    · by_cases silent : charWidth c = 0
      · cases rest <;> simp [cellsAfter, first.symm, selects, silent]
      · cases rest <;> simp [cellsAfter, first.symm, selects, silent]

/-- The pieces of a text are what it is made of. -/
theorem flatten_graphemesAfter (piece : Grapheme) (last : Option Char) (chars : List Char) :
    ((graphemesAfter piece last chars).map Grapheme.chars).flatten = piece.chars ++ chars := by
  fun_induction graphemesAfter piece last chars <;> simp_all [Grapheme.extend]

theorem flatten_graphemes (chars : List Char) : ((graphemes chars).map Grapheme.chars).flatten = chars := by
  cases chars with
  | nil => rfl
  | cons c rest => exact flatten_graphemesAfter _ _ rest

/-! The characters of lines. Cutting and filling use those of the text, and spaces. -/

theorem mem_splitAtChar {separator c : Char} {chars slice : List Char} (part : slice ∈ splitAtChar separator chars)
    (member : c ∈ slice) : c ∈ chars := by
  fun_induction splitAtChar separator chars generalizing slice <;> grind

theorem mem_spacedWords {word chars spaced : List Char} {begun ended : Bool} {c : Char}
    (part : spaced ∈ spacedWords word begun ended chars) (member : c ∈ spaced) : c ∈ word ∨ c ∈ chars := by
  fun_induction spacedWords word begun ended chars <;> grind

theorem mem_chopped {width used : Nat} {row piece : List Char} {pieces : List Grapheme} {c : Char}
    (part : piece ∈ chopped width row used pieces) (member : c ∈ piece) :
    c ∈ row ∨ ∃ other ∈ pieces, c ∈ other.chars := by
  fun_induction chopped width row used pieces <;> grind

theorem mem_fitting {width : Nat} {pieces : List Grapheme} {c : Char} (member : c ∈ fitting width pieces) :
    c = ' ' ∨ ∃ piece ∈ pieces, c ∈ piece.chars := by
  fun_induction fitting width pieces <;> grind

theorem mem_cutAt {offset : Nat} {chars piece : List Char} {places : List Nat} {c : Char}
    (part : piece ∈ Marked.cutAt offset chars places) (member : c ∈ piece) : c ∈ chars := by
  fun_induction Marked.cutAt offset chars places <;> grind [List.mem_of_mem_take, List.mem_of_mem_drop]

theorem mem_graphemes {chars : List Char} {piece : Grapheme} {c : Char} (part : piece ∈ graphemes chars)
    (member : c ∈ piece.chars) : c ∈ chars := by
  rw [← flatten_graphemes chars]
  exact List.mem_flatten_of_mem (List.mem_map_of_mem part) member

theorem mem_chopped_graphemes {width : Nat} {chars piece : List Char} {c : Char}
    (part : piece ∈ chopped width [] 0 (graphemes chars)) (member : c ∈ piece) : c ∈ chars := by
  rcases mem_chopped part member with nothing | ⟨other, shown, there⟩
  · cases nothing
  · exact mem_graphemes shown there

theorem mem_fill {width used : Nat} {line row : List Char} {words : List (List Char)} {c : Char}
    (part : row ∈ fill width line used words) (member : c ∈ row) : c ∈ line ∨ ∃ word ∈ words, c ∈ word := by
  fun_induction fill width line used words with
  | case1 => grind
  | case2 line used word rest bare fits ih => grind
  | case3 line used word rest bare before full wide rows last ih =>
    have broken (piece : List Char) (among : piece ∈ rows) (there : c ∈ piece) : c ∈ word :=
      mem_chopped_graphemes among there
    rcases List.mem_append.mp part with earlier | later
    · rcases List.mem_append.mp earlier with former | among
      · grind
      · exact .inr ⟨word, List.mem_cons_self, broken row (List.dropLast_subset rows among) member⟩
    · have lastOne : last = [] ∨ last ∈ rows := by grind
      grind
  | case4 line used word rest bare before full narrow ih => grind

/-! What can be shown. -/

/-- A text of which every line can be shown: nothing in it joins, and its styles can be read. -/
structure Showable (marked : Marked) : Prop where
  unjoined : joiner ∉ marked.chars
  styled : ∀ span ∈ marked.spans, ∀ words, span.style = some words → ∃ style, Style.ofText? words = .ok style

namespace Showable

variable {line other : Marked}

theorem checkStyles (showable : Showable line) : line.checkStyles = .ok () := by
  refine forM_passed fun span member => ?_
  cases words : span.style with
  | none => rfl
  | some words' =>
    obtain ⟨style, read⟩ := showable.styled span member words' words
    simp only [read]
    rfl

/-- A text whose parts are styled as those of a text that can be shown are. -/
theorem restyled (showable : Showable line) (unjoined : joiner ∉ other.chars)
    (same : ∀ span ∈ other.spans, ∃ former ∈ line.spans, former.style = span.style) : Showable other where
  unjoined
  styled span member words named := by
    obtain ⟨former, there, alike⟩ := same span member
    exact showable.styled former there words (alike.trans named)

theorem sliceFrom (showable : Showable line) (start : Nat) {chars : List Char} (unjoined : joiner ∉ chars) :
    Showable (line.sliceFrom start chars) := by
  refine showable.restyled unjoined fun span member => ?_
  obtain ⟨former, there, cut⟩ := List.mem_filterMap.mp member
  refine ⟨former, there, ?_⟩
  unfold Span.within? at cut
  grind

theorem stretched (showable : Showable line) (count : Nat) : Showable (line.stretched count) := by
  refine showable.restyled ?_ fun span member => ?_
  · have apart : joiner ≠ ' ' := by decide
    simp [Marked.stretched, showable.unjoined, apart]
  · obtain ⟨former, there, rfl⟩ := List.mem_map.mp member
    refine ⟨former, there, ?_⟩
    split <;> rfl

theorem append (showable : Showable line) (showable' : Showable other) : Showable (line.append other) where
  unjoined := by simp [Marked.append, showable.unjoined, showable'.unjoined]
  styled span member := by
    rcases List.mem_append.mp member with first | second
    · exact showable.styled span first
    · obtain ⟨former, there, rfl⟩ := List.mem_map.mp second
      exact showable'.styled former there

theorem withChars (showable : Showable line) {chars : List Char} (unjoined : joiner ∉ chars) :
    Showable (line.withChars chars) := by
  refine showable.restyled unjoined fun span member => ?_
  unfold Marked.withChars at member
  dsimp only at member
  split at member
  · exact ⟨span, member, rfl⟩
  · obtain ⟨former, kept, rfl⟩ := List.mem_map.mp member
    exact ⟨former, (List.mem_filter.mp kept).1, rfl⟩

theorem slicesFrom (showable : Showable line) {gap start : Nat} {slices : List (List Char)}
    (unjoined : ∀ slice ∈ slices, joiner ∉ slice) : ∀ part ∈ line.slicesFrom gap start slices, Showable part := by
  induction slices generalizing start with
  | nil => nofun
  | cons first rest ih =>
    obtain ⟨here, later⟩ := List.forall_mem_cons.mp unjoined
    exact List.forall_mem_cons.mpr ⟨showable.sliceFrom start here, ih later⟩

theorem divided (showable : Showable line) {gap : Nat} {slices : List (List Char)}
    (unjoined : ∀ slice ∈ slices, joiner ∉ slice) : ∀ part ∈ line.divided gap slices, Showable part := by
  unfold Marked.divided
  split
  · exact List.forall_mem_singleton.mpr showable
  · exact List.forall_mem_singleton.mpr showable
  · exact showable.slicesFrom unjoined

theorem tabbed (showable : Showable line) {start used : Nat} {slices : List (List Char)}
    (unjoined : ∀ slice ∈ slices, joiner ∉ slice) : ∀ part ∈ tabbed line start used slices, Showable part := by
  have apart : joiner ≠ ' ' := by decide
  fun_induction Terminal.tabbed line start used slices with
  | case1 => nofun
  | case2 start used slice =>
    exact List.forall_mem_singleton.mpr (showable.sliceFrom start (unjoined slice List.mem_cons_self))
  | case3 start used slice next rest chars reached more ih =>
    obtain ⟨here, later⟩ := List.forall_mem_cons.mp unjoined
    refine List.forall_mem_cons.mpr ⟨(showable.sliceFrom start ?_).stretched more, ih later⟩
    simp [chars, here, apart]

theorem joined {parts : List Marked} (showable : ∀ part ∈ parts, Showable part) :
    Showable (parts.foldr Marked.append ⟨[], []⟩) := by
  induction parts with
  | nil => exact ⟨nofun, nofun⟩
  | cons first rest ih =>
    obtain ⟨here, later⟩ := List.forall_mem_cons.mp showable
    exact here.append (ih later)

theorem withoutTabs (showable : Showable line) : Showable (withoutTabs line) := by
  have unjoined (slice : List Char) (part : slice ∈ splitAtChar '\t' line.chars) : joiner ∉ slice :=
    fun member => showable.unjoined (mem_splitAtChar part member)
  unfold Terminal.withoutTabs
  split
  · exact showable
  · exact showable
  · exact joined (showable.tabbed unjoined)

end Showable

/-- A text that is wider than a width has a head. -/
theorem headOf_ok {width : Nat} {chars : List Char} (unjoined : joiner ∉ chars) (wide : width < cells chars) :
    ∃ head, headOf width chars = .ok head ∧ joiner ∉ head := by
  unfold headOf
  dsimp only
  rw [total_graphemes unjoined]
  by_cases narrow : width = 0
  · exact ⟨[], if_pos narrow, nofun⟩
  · rw [if_neg narrow, if_neg (by omega), if_neg (by omega)]
    refine ⟨_, rfl, fun member => ?_⟩
    rcases mem_fitting member with space | ⟨piece, part, there⟩
    · exact absurd space (by decide)
    · exact unjoined (mem_graphemes part there)

theorem settled_ok {line : Marked} (showable : Showable line) (width : Nat) (filled : Bool) :
    ∃ shown, settled width filled line = .ok shown ∧ Showable shown := by
  have kept : Showable (trimmedTo width line) :=
    showable.withChars fun member => showable.unjoined (List.mem_of_mem_take member)
  unfold settled
  dsimp only
  split
  next wide =>
    obtain ⟨head, cut, unjoined⟩ := headOf_ok kept.unjoined wide
    exact ⟨_, by rw [cut]; rfl, kept.withChars unjoined⟩
  next =>
    split
    · refine ⟨_, rfl, kept.withChars fun member => ?_⟩
      rcases List.mem_append.mp member with before | space
      · exact kept.unjoined before
      · exact absurd (List.eq_of_mem_replicate space) (by decide)
    · exact ⟨_, rfl, kept⟩

theorem wrapLine_ok {line : Marked} (showable : Showable line) (width : Nat) (filled : Bool) :
    ∃ lines, wrapLine width filled line = .ok lines ∧ ∀ shown ∈ lines, Showable shown := by
  have even := showable.withoutTabs
  refine mapM_formed fun part member => settled_ok (even.divided (fun row filled there => ?_) part member) width _
  rcases mem_fill filled there with nothing | ⟨word, spaced, inside⟩
  · cases nothing
  · rcases mem_spacedWords spaced inside with nothing | character
    · cases nothing
    · exact even.unjoined character

/-- A text that can be shown can be put into lines, and each of them can be shown. -/
theorem wrap_ok {text : Marked} (showable : Showable text) (width : Nat) (filled : Bool) :
    ∃ lines, wrap width filled text = .ok lines ∧ ∀ line ∈ lines, Showable line := by
  have slices (slice : List Char) (part : slice ∈ splitAtChar '\n' text.chars) : joiner ∉ slice :=
    fun member => showable.unjoined (mem_splitAtChar part member)
  obtain ⟨rows, made, each⟩ :=
    mapM_formed fun line member => wrapLine_ok (@showable.divided _ 1 _ slices line member) width filled
  refine ⟨rows.flatten, by unfold wrap; rw [made]; rfl, fun line member => ?_⟩
  obtain ⟨row, among, here⟩ := List.mem_flatten.mp member
  exact each row among line here

/-! Lines are never lost altogether. -/

theorem divided_ne_nil (marked : Marked) (gap : Nat) (slices : List (List Char)) : marked.divided gap slices ≠ [] := by
  unfold Marked.divided
  split
  · exact List.cons_ne_nil _ _
  · exact List.cons_ne_nil _ _
  next several _ =>
    cases slices with
    | nil => exact absurd rfl several
    | cons first rest => exact List.cons_ne_nil _ _

theorem wrapLine_ne_nil {width : Nat} {filled : Bool} {line : Marked} {lines : List Marked}
    (wrapped : wrapLine width filled line = .ok lines) : lines ≠ [] := by
  unfold wrapLine at wrapped
  dsimp only at wrapped
  obtain ⟨part, rest, parts⟩ := List.exists_cons_of_ne_nil
    (divided_ne_nil (withoutTabs line) 0 (fill width [] 0 (spacedWords [] false false (withoutTabs line).chars)))
  rw [parts] at wrapped
  obtain ⟨first, others, -, -, rfl⟩ := List.forall₂_cons_left_iff.mp (forall₂_of_mapM wrapped)
  exact List.cons_ne_nil first others

theorem wrap_ne_nil {width : Nat} {filled : Bool} {text : Marked} {lines : List Marked}
    (wrapped : wrap width filled text = .ok lines) : lines ≠ [] := by
  unfold wrap at wrapped
  rcases made : (text.divided 1 (splitAtChar '\n' text.chars)).mapM (wrapLine width filled) with misuse | rows
  · rw [made] at wrapped
    cases wrapped
  · rw [made] at wrapped
    cases wrapped
    obtain ⟨line, rest, slices⟩ := List.exists_cons_of_ne_nil (divided_ne_nil text 1 (splitAtChar '\n' text.chars))
    rw [slices] at made
    obtain ⟨first, others, wrapped, -, rfl⟩ := List.forall₂_cons_left_iff.mp (forall₂_of_mapM made)
    exact List.append_ne_nil_of_left_ne_nil (wrapLine_ne_nil wrapped) _

theorem cropped_ok {width : Nat} {pieces : List (List Char)} (unjoined : ∀ piece ∈ pieces, joiner ∉ piece) :
    ∃ shown, cropped width pieces = .ok shown := by
  fun_induction cropped width pieces with
  | case1 => exact ⟨[], rfl⟩
  | case2 width piece rest used fits ih =>
    obtain ⟨shown, cut⟩ := ih (List.forall_mem_cons.mp unjoined).2
    exact ⟨piece :: shown, by rw [cut]; rfl⟩
  | case3 => exact ⟨_, rfl⟩
  | case4 width piece rest used fits full =>
    have wide : width < cells piece := by omega
    obtain ⟨head, cut, -⟩ := headOf_ok (unjoined piece List.mem_cons_self) wide
    exact ⟨[head], by rw [cut]; rfl⟩

theorem limited_ok {line : Marked} (showable : Showable line) (width : Nat) :
    ∃ shown, limited width line.runs = .ok shown := by
  unfold limited
  split
  · exact ⟨_, rfl⟩
  · exact cropped_ok fun piece run member => showable.unjoined (mem_cutAt (List.mem_filter.mp run).1 member)

end DataLayer.Terminal
