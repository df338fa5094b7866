import DataLayer.Proofs.Terminal.Wrapping
import Mathlib.Data.List.TakeWhile

/-! What lines keep of the text that is put into them. White space may be lost where a line ends, and so may other
characters where a line is cut. Main statement: lines have no characters that the text has not, but for white space; and
where nothing in the text joins or widens, so that each character takes its own cells, nothing else is lost either. -/

namespace DataLayer.Terminal

open DataLayer.Markup DataLayer.Text

/-- The characters that can be seen. -/
def ink (chars : List Char) : List Char := chars.filter fun c => !isBlank c

@[simp] theorem ink_nil : ink [] = [] := rfl

@[simp] theorem ink_append (first second : List Char) : ink (first ++ second) = ink first ++ ink second :=
  List.filter_append ..

theorem ink_cons (c : Char) (rest : List Char) : ink (c :: rest) = if isBlank c then ink rest else c :: ink rest := by
  unfold ink
  cases blank : isBlank c <;> simp [blank]

theorem ink_flatten (rows : List (List Char)) : ink rows.flatten = rows.flatMap ink := by
  induction rows with
  | nil => rfl
  | cons row rest ih => rw [List.flatten_cons, ink_append, ih, List.flatMap_cons]

theorem ink_blank {chars : List Char} (blank : ∀ c ∈ chars, isBlank c = true) : ink chars = [] :=
  List.filter_eq_nil_iff.mpr fun c member => by simp [blank c member]

theorem ink_replicate (count : Nat) : ink (List.replicate count ' ') = [] :=
  ink_blank fun c member => by
    rw [List.eq_of_mem_replicate member]
    decide

theorem ink_sublist {first second : List Char} (part : first.Sublist second) : (ink first).Sublist (ink second) :=
  part.filter _

/-- What is formed row by row grows row by row. -/
theorem sublist_flatMap {α β : Type} {former : α → List Char} {latter : β → List Char} {items : List α} {rows : List β}
    (each : List.Forall₂ (fun item row => (former item).Sublist (latter row)) items rows) :
    (items.flatMap former).Sublist (rows.flatMap latter) := by
  induction each with
  | nil => exact List.Sublist.slnil
  | cons here _ ih => exact here.append ih

/-- A row is formed where each of its items is, and keeps what each of them keeps. -/
theorem mapM_kept {ε α β : Type} {form : α → Except ε β} {former : α → List Char} {latter : β → List Char}
    {good : β → Prop} {items : List α}
    (each : ∀ item ∈ items, ∃ made, form item = .ok made ∧ latter made = former item ∧ good made) :
    ∃ row, items.mapM form = .ok row ∧ row.flatMap latter = items.flatMap former ∧ ∀ made ∈ row, good made := by
  induction items with
  | nil => exact ⟨[], rfl, rfl, nofun⟩
  | cons item rest ih =>
    obtain ⟨made, formed, same, fine⟩ := each item List.mem_cons_self
    obtain ⟨row, rows, kept, all⟩ := ih fun other member => each other (List.mem_cons_of_mem item member)
    refine ⟨made :: row, ?_, ?_, List.forall_mem_cons.mpr ⟨fine, all⟩⟩
    · rw [List.mapM_cons, formed, rows]
      rfl
    · rw [List.flatMap_cons, List.flatMap_cons, same, kept]

/-! Stages at which a text is only taken apart. -/

theorem flatMap_ink_splitAtChar {separator : Char} (blank : isBlank separator = true) (chars : List Char) :
    (splitAtChar separator chars).flatMap ink = ink chars := by
  fun_induction splitAtChar separator chars with
  | case1 => rfl
  | case2 rest ih => simp [ih, ink_cons, blank]
  | case3 c rest apart none ih =>
    simp only [none, List.flatMap_nil] at ih
    rw [ink_cons, ← ih, List.flatMap_singleton, ink_cons]
    rfl
  | case4 c rest apart piece pieces split ih =>
    rw [split] at ih
    simp only [List.flatMap_cons] at ih ⊢
    rw [ink_cons, ink_cons, ← ih]
    split <;> simp

theorem flatten_spacedWords (word : List Char) (begun ended : Bool) (chars : List Char) :
    (spacedWords word begun ended chars).flatten = word.reverse ++ chars := by
  fun_induction spacedWords word begun ended chars <;> simp_all

theorem flatten_cutAt (offset : Nat) (chars : List Char) (places : List Nat) :
    (Marked.cutAt offset chars places).flatten = chars := by
  fun_induction Marked.cutAt offset chars places with
  | case1 => simp
  | case2 offset chars place rest ih => rw [List.flatten_cons, ih, List.take_append_drop]

theorem flatten_runs (line : Marked) : line.runs.flatten = line.chars := by
  unfold Marked.runs
  dsimp only
  rw [List.flatten_filter_not_isEmpty, flatten_cutAt]

theorem map_chars_slicesFrom (line : Marked) (gap start : Nat) (slices : List (List Char)) :
    (line.slicesFrom gap start slices).map Marked.chars = slices := by
  induction slices generalizing start with
  | nil => rfl
  | cons first rest ih =>
    unfold Marked.slicesFrom
    rw [List.map_cons, ih]
    rfl

/-- The characters of lines that can be seen. -/
def inkOf (lines : List Marked) : List Char := lines.flatMap fun line => ink line.chars

theorem inkOf_flatten (rows : List (List Marked)) : inkOf rows.flatten = rows.flatMap inkOf := by
  induction rows with
  | nil => rfl
  | cons row rest ih =>
    rw [List.flatMap_cons, ← ih]
    exact List.flatMap_append

/-- A text that is divided keeps all that its slices keep. -/
theorem inkOf_divided (line : Marked) (gap : Nat) (slices : List (List Char)) :
    inkOf (line.divided gap slices) = ink line.chars ∨ inkOf (line.divided gap slices) = slices.flatMap ink := by
  unfold Marked.divided
  split
  · exact .inl (List.append_nil _)
  · exact .inl (List.append_nil _)
  · refine .inr ?_
    unfold inkOf
    rw [← List.flatMap_map, map_chars_slicesFrom]

theorem inkOf_divided_eq {line : Marked} {gap : Nat} {slices : List (List Char)}
    (same : slices.flatMap ink = ink line.chars) : inkOf (line.divided gap slices) = ink line.chars :=
  (inkOf_divided line gap slices).elim id fun kept => kept.trans same

/-- The parts of a text that is divided are the slices. -/
theorem chars_mem_slices {line part : Marked} {gap : Nat} {slices : List (List Char)} (filled : slices ≠ [])
    (same : slices.flatten = line.chars) (member : part ∈ line.divided gap slices) : part.chars ∈ slices := by
  unfold Marked.divided at member
  split at member
  · exact absurd rfl filled
  next single =>
    rw [List.mem_singleton.mp member, ← same]
    simp
  · rw [← map_chars_slicesFrom line gap 0 slices]
    exact List.mem_map_of_mem member

theorem chars_subset_of_divided {line part : Marked} {gap : Nat} {slices : List (List Char)}
    (inside : ∀ slice ∈ slices, slice ⊆ line.chars) (member : part ∈ line.divided gap slices) :
    part.chars ⊆ line.chars := by
  unfold Marked.divided at member
  split at member
  · rw [List.mem_singleton.mp member]
    exact List.Subset.refl _
  · rw [List.mem_singleton.mp member]
    exact List.Subset.refl _
  · refine inside _ ?_
    rw [← map_chars_slicesFrom line gap 0 slices]
    exact List.mem_map_of_mem member

theorem inkOf_tabbed (line : Marked) (start used : Nat) (slices : List (List Char)) :
    inkOf (tabbed line start used slices) = slices.flatMap ink := by
  unfold inkOf
  fun_induction tabbed line start used slices with
  | case1 => rfl
  | case2 start used slice => rfl
  | case3 start used slice next rest chars reached more ih =>
    rw [List.flatMap_cons, ih, List.flatMap_cons]
    change ink ((slice ++ List.replicate 1 ' ') ++ List.replicate more ' ') ++ _ = _
    rw [ink_append, ink_append, ink_replicate, ink_replicate, List.append_nil, List.append_nil, List.flatMap_cons,
      List.flatMap_cons]

theorem mem_tabbed {line part : Marked} {start used : Nat} {slices : List (List Char)} {c : Char}
    (member : part ∈ tabbed line start used slices) (there : c ∈ part.chars) : c = ' ' ∨ ∃ slice ∈ slices, c ∈ slice := by
  fun_induction tabbed line start used slices with
  | case1 => cases member
  | case2 start used slice =>
    rw [List.mem_singleton.mp member] at there
    exact .inr ⟨slice, List.mem_singleton_self _, there⟩
  | case3 start used slice next rest chars reached more ih =>
    rcases List.mem_cons.mp member with rfl | later
    · simp only [Marked.stretched, Marked.sliceFrom, chars, List.mem_append, List.mem_singleton] at there
      rcases there with (inside | space) | filling
      · exact .inr ⟨slice, List.mem_cons_self, inside⟩
      · exact .inl space
      · exact .inl (List.eq_of_mem_replicate filling)
    · rcases ih later with space | ⟨other, among, inside⟩
      · exact .inl space
      · exact .inr ⟨other, List.mem_cons_of_mem _ among, inside⟩

theorem chars_joined (parts : List Marked) :
    (parts.foldr Marked.append ⟨[], []⟩).chars = (parts.map Marked.chars).flatten := by
  induction parts with
  | nil => rfl
  | cons part rest ih =>
    rw [List.foldr_cons, List.map_cons, List.flatten_cons, ← ih]
    rfl

/-- Tabs are replaced by other white space. -/
theorem ink_withoutTabs (line : Marked) : ink (withoutTabs line).chars = ink line.chars := by
  unfold withoutTabs
  split
  · rfl
  · rfl
  · rw [chars_joined, ink_flatten, List.flatMap_map]
    exact (inkOf_tabbed line 0 0 _).trans (flatMap_ink_splitAtChar (by decide) _)

theorem mem_withoutTabs {line : Marked} {c : Char} (member : c ∈ (withoutTabs line).chars) : c = ' ' ∨ c ∈ line.chars := by
  unfold withoutTabs at member
  split at member
  · exact .inr member
  · exact .inr member
  · rw [chars_joined] at member
    obtain ⟨chars, among, there⟩ := List.mem_flatten.mp member
    obtain ⟨part, made, rfl⟩ := List.mem_map.mp among
    rcases mem_tabbed made there with space | ⟨slice, split, inside⟩
    · exact .inl space
    · exact .inr (mem_splitAtChar split inside)

/-! Nothing is added but white space, whatever the text. -/

theorem chopped_sublist (width : Nat) (row : List Char) (used : Nat) (pieces : List Grapheme) :
    (chopped width row used pieces).flatten.Sublist (row.reverse ++ (pieces.map Grapheme.chars).flatten) := by
  fun_induction chopped width row used pieces with
  | case1 => exact List.nil_sublist _
  | case2 => simp
  | case3 row used piece rest beyond ih =>
    rw [List.reverse_reverse] at ih
    exact (List.Sublist.refl _).append ih
  | case4 row used piece rest fits ih =>
    rw [List.reverse_append, List.reverse_reverse, List.append_assoc] at ih
    exact ih

theorem fill_sublist (width : Nat) (line : List Char) (used : Nat) (words : List (List Char)) :
    (fill width line used words).flatten.Sublist (line ++ words.flatten) := by
  have before (line : List Char) : (if line.isEmpty then [] else [line]).flatten = line := by
    cases line <;> simp
  fun_induction fill width line used words with
  | case1 => simp
  | case2 line used word rest bare fits ih => simpa using ih
  | case3 line used word rest bare front full wide rows last ih =>
    have cut : rows.flatten.Sublist word := by
      have part := chopped_sublist width [] 0 (graphemes word)
      rwa [flatten_graphemes] at part
    have whole : (rows.dropLast.flatten ++ last).Sublist word := by
      refine List.Sublist.trans ?_ cut
      rcases List.eq_nil_or_concat rows with none | ⟨front, final, some⟩
      · simp [last, none]
      · simp [last, some]
    rw [List.flatten_append, List.flatten_append, before, List.append_assoc, List.flatten_cons]
    refine (List.Sublist.refl line).append (((List.Sublist.refl _).append ih).trans ?_)
    rw [← List.append_assoc]
    exact whole.append (List.Sublist.refl _)
  | case4 line used word rest bare front full narrow ih =>
    rw [List.flatten_append, before]
    exact (List.Sublist.refl line).append ih

theorem ink_fitting_sublist (width : Nat) (pieces : List Grapheme) :
    (ink (fitting width pieces)).Sublist (ink (pieces.map Grapheme.chars).flatten) := by
  fun_induction fitting width pieces with
  | case1 => exact List.Sublist.refl _
  | case2 => exact List.nil_sublist _
  | case3 width piece rest some fits ih =>
    rw [List.map_cons, List.flatten_cons, ink_append, ink_append]
    exact (List.Sublist.refl _).append ih
  | case4 => exact List.nil_sublist _

theorem ink_headOf_sublist {width : Nat} {chars head : List Char} (cut : headOf width chars = .ok head) :
    (ink head).Sublist (ink chars) := by
  unfold headOf at cut
  dsimp only at cut
  split at cut
  · cases cut
    exact List.nil_sublist _
  · split at cut
    · cases cut
    · split at cut
      · cases cut
      · cases cut
        have part := ink_fitting_sublist width (graphemes chars)
        rwa [flatten_graphemes] at part

theorem ink_settled_sublist {width : Nat} {filled : Bool} {line shown : Marked}
    (done : settled width filled line = .ok shown) : (ink shown.chars).Sublist (ink line.chars) := by
  have kept : (ink (trimmedTo width line).chars).Sublist (ink line.chars) := ink_sublist (List.take_sublist _ _)
  unfold settled at done
  dsimp only at done
  split at done
  · rcases cut : headOf width (trimmedTo width line).chars with misuse | head
    · rw [cut] at done
      cases done
    · rw [cut] at done
      cases done
      exact (ink_headOf_sublist cut).trans kept
  · split at done
    · cases done
      change (ink (_ ++ List.replicate _ ' ')).Sublist _
      rw [ink_append, ink_replicate, List.append_nil]
      exact kept
    · cases done
      exact kept

theorem inkOf_wrapLine_sublist {width : Nat} {filled : Bool} {line : Marked} {lines : List Marked}
    (done : wrapLine width filled line = .ok lines) : (inkOf lines).Sublist (ink line.chars) := by
  unfold wrapLine at done
  dsimp only at done
  have cut := sublist_flatMap ((forall₂_of_mapM done).flip.imp fun _ _ => ink_settled_sublist)
  rw [← ink_withoutTabs line]
  refine cut.trans ?_
  change (inkOf _).Sublist _
  rcases inkOf_divided (withoutTabs line) 0 (fill width [] 0 (spacedWords [] false false (withoutTabs line).chars))
    with whole | rows
  · exact whole ▸ List.Sublist.refl _
  · have filled := fill_sublist width [] 0 (spacedWords [] false false (withoutTabs line).chars)
    rw [flatten_spacedWords] at filled
    have inked := ink_sublist filled
    rw [ink_flatten] at inked
    exact rows ▸ inked

theorem inkOf_wrap_sublist {width : Nat} {filled : Bool} {text : Marked} {lines : List Marked}
    (done : wrap width filled text = .ok lines) : (inkOf lines).Sublist (ink text.chars) := by
  unfold wrap at done
  rcases made : (text.divided 1 (splitAtChar '\n' text.chars)).mapM (wrapLine width filled) with misuse | rows
  · rw [made] at done
    cases done
  · rw [made] at done
    cases done
    have split := flatMap_ink_splitAtChar (show isBlank '\n' = true by decide) text.chars
    rw [inkOf_flatten, ← @inkOf_divided_eq text 1 _ split]
    exact sublist_flatMap ((forall₂_of_mapM made).flip.imp fun _ _ => inkOf_wrapLine_sublist)

theorem ink_cropped_sublist {width : Nat} {pieces shown : List (List Char)} (done : cropped width pieces = .ok shown) :
    (ink shown.flatten).Sublist (ink pieces.flatten) := by
  induction pieces generalizing width shown with
  | nil =>
    cases done
    exact List.Sublist.refl _
  | cons piece rest ih =>
    rw [List.flatten_cons, ink_append]
    unfold cropped at done
    dsimp only at done
    split at done
    · rcases cut : cropped (width - cells piece) rest with misuse | later
      · rw [cut] at done
        cases done
      · rw [cut] at done
        cases done
        rw [List.flatten_cons, ink_append]
        exact (List.Sublist.refl _).append (ih cut)
    · split at done
      · cases done
        rw [List.flatten_singleton]
        exact List.sublist_append_left _ _
      · rcases cut : headOf width piece with misuse | head
        · rw [cut] at done
          cases done
        · rw [cut] at done
          cases done
          rw [List.flatten_singleton]
          exact (ink_headOf_sublist cut).trans (List.sublist_append_left _ _)

theorem ink_limited_sublist {width : Nat} {line : Marked} {shown : List (List Char)}
    (done : limited width line.runs = .ok shown) : (ink shown.flatten).Sublist (ink line.chars) := by
  rw [← flatten_runs line]
  unfold limited at done
  split at done
  · cases done
    exact List.Sublist.refl _
  · exact ink_cropped_sublist done

/-! Text in which every character takes its own cells. -/

/-- Holds of texts without characters that join others or widen them. -/
def Steady (chars : List Char) : Prop := ∀ c ∈ chars, c ≠ joiner ∧ c ≠ selector

instance (chars : List Char) : Decidable (Steady chars) :=
  decidable_of_iff (chars.all fun c => c != joiner && c != selector) (by simp [Steady])

theorem Steady.unjoined {chars : List Char} (steady : Steady chars) : joiner ∉ chars :=
  fun member => (steady joiner member).1 rfl

theorem Steady.append {first second : List Char} (steady : Steady first) (steady' : Steady second) :
    Steady (first ++ second) :=
  List.forall_mem_append.mpr ⟨steady, steady'⟩

theorem Steady.subset {chars others : List Char} (steady : Steady chars) (part : others ⊆ chars) : Steady others :=
  fun c member => steady c (part member)

/-- The cells of characters one by one. -/
def breadth : List Char → Nat
  | [] => 0
  | c :: rest => charWidth c + breadth rest

@[simp] theorem breadth_nil : breadth [] = 0 := rfl

@[simp] theorem breadth_cons (c : Char) (rest : List Char) : breadth (c :: rest) = charWidth c + breadth rest := rfl

@[simp] theorem breadth_append (first second : List Char) : breadth (first ++ second) = breadth first + breadth second := by
  induction first with
  | nil => simp
  | cons c first ih => rw [List.cons_append, breadth_cons, breadth_cons, ih, Nat.add_assoc]

theorem breadth_spaces (count : Nat) : breadth (List.replicate count ' ') = count := by
  have single : charWidth ' ' = 1 := by decide
  induction count with
  | zero => rfl
  | succ count ih => rw [List.replicate_succ, breadth_cons, ih, single, Nat.add_comm]

theorem charWidth_le (c : Char) : charWidth c ≤ 2 := by
  unfold charWidth
  repeat' split
  all_goals omega

theorem cellsAfter_steady (last : Option Char) {chars : List Char} (steady : Steady chars) :
    cellsAfter last chars = breadth chars := by
  fun_induction cellsAfter last chars <;> simp_all [Steady]

theorem cells_steady {chars : List Char} (steady : Steady chars) : cells chars = breadth chars :=
  cellsAfter_steady none steady

/-- A piece whose first character takes all of its cells. -/
def Headed (piece : Grapheme) : Prop :=
  ∃ first marks, piece.chars = first :: marks ∧ piece.cells = charWidth first ∧ breadth marks = 0

theorem Headed.cells_eq {piece : Grapheme} (headed : Headed piece) : piece.cells = breadth piece.chars := by
  obtain ⟨first, marks, spelled, cells, silent⟩ := headed
  rw [cells, spelled, breadth_cons, silent, Nat.add_zero]

theorem Headed.extend {piece : Grapheme} (headed : Headed piece) {c : Char} (silent : charWidth c = 0) :
    Headed (piece.extend [c] 0) := by
  obtain ⟨first, marks, spelled, cells, rest⟩ := headed
  refine ⟨first, marks ++ [c], ?_, cells, ?_⟩
  · simp [Grapheme.extend, spelled]
  · simp [rest, silent]

/-- The pieces of a text are headed, and those after the first have cells. -/
theorem graphemesAfter_headed {piece : Grapheme} (headed : Headed piece) (last : Option Char) {chars : List Char}
    (steady : Steady chars) : ∃ first rest, graphemesAfter piece last chars = first :: rest ∧ Headed first ∧
      first.cells = piece.cells ∧ ∀ later ∈ rest, Headed later ∧ 0 < later.cells := by
  have single {c : Char} : Headed ⟨[c], charWidth c⟩ := ⟨c, [], rfl, rfl, rfl⟩
  fun_induction graphemesAfter piece last chars with
  | case1 piece => exact ⟨piece, [], rfl, headed, rfl, fun _ none => absurd none List.not_mem_nil⟩
  | case2 => exact absurd rfl (steady joiner List.mem_cons_self).1
  | case3 => exact absurd rfl (steady selector List.mem_cons_self).2
  | case4 piece last c _ _ silent => exact ⟨_, [], rfl, headed.extend silent, rfl, fun _ none => absurd none List.not_mem_nil⟩
  | case5 piece last c _ _ wide =>
    exact ⟨piece, _, rfl, headed, rfl, List.forall_mem_singleton.mpr ⟨single, Nat.pos_of_ne_zero wide⟩⟩
  | case6 => exact absurd rfl (steady joiner List.mem_cons_self).1
  | case7 => exact absurd rfl (steady selector List.mem_cons_self).2
  | case8 piece last c next rest _ _ silent ih =>
    exact ih (headed.extend silent) (steady.subset (List.subset_cons_self _ _))
  | case9 piece last c next rest _ _ wide ih =>
    obtain ⟨first, others, split, here, same, later⟩ := ih single (steady.subset (List.subset_cons_self _ _))
    refine ⟨piece, _, rfl, headed, rfl, ?_⟩
    rw [split]
    exact List.forall_mem_cons.mpr ⟨⟨here, same ▸ Nat.pos_of_ne_zero wide⟩, later⟩

theorem graphemes_headed {chars : List Char} (steady : Steady chars) :
    (∀ piece ∈ graphemes chars, Headed piece) ∧ ∀ piece ∈ (graphemes chars).tail, 0 < piece.cells := by
  cases chars with
  | nil => exact ⟨nofun, nofun⟩
  | cons c rest =>
    obtain ⟨unjoined, narrow⟩ := steady c List.mem_cons_self
    have headed : Headed ⟨[c], if c = joiner || c = selector then 0 else charWidth c⟩ :=
      ⟨c, [], rfl, by simp [unjoined, narrow], rfl⟩
    obtain ⟨first, others, split, here, -, later⟩ :=
      graphemesAfter_headed headed _ (steady.subset (List.subset_cons_self _ _))
    unfold graphemes
    dsimp only
    rw [split]
    exact ⟨List.forall_mem_cons.mpr ⟨here, fun piece member => (later piece member).1⟩,
      fun piece member => (later piece member).2⟩

/-- What fits into a width is kept, where nothing but white space follows it. -/
theorem ink_fitting {width : Nat} {pieces : List Grapheme} {front blanks : List Char}
    (headed : ∀ piece ∈ pieces, Headed piece) (later : ∀ piece ∈ pieces.tail, 0 < piece.cells)
    (full : width = 0 → ∀ piece ∈ pieces, 0 < piece.cells)
    (spelled : (pieces.map Grapheme.chars).flatten = front ++ blanks) (blank : ∀ c ∈ blanks, isBlank c = true)
    (fits : breadth front ≤ width) : ink (fitting width pieces) = ink front := by
  fun_induction fitting width pieces generalizing front with
  | case1 =>
    obtain ⟨rfl, -⟩ := List.append_eq_nil_iff.mp spelled.symm
    rfl
  | case2 piece rest =>
    obtain ⟨first, marks, chars, cells, -⟩ := headed piece List.mem_cons_self
    cases front with
    | nil => rfl
    | cons c front =>
      rw [List.map_cons, List.flatten_cons, chars, List.cons_append, List.cons_append] at spelled
      obtain ⟨rfl, -⟩ := List.cons.inj spelled
      have some := full rfl piece List.mem_cons_self
      rw [breadth_cons] at fits
      omega
  | case3 width piece rest wide narrow ih =>
    rw [List.map_cons, List.flatten_cons] at spelled
    have some (other : Grapheme) (member : other ∈ rest) : 0 < other.cells := later other member
    rw [ink_append]
    rcases List.append_eq_append_iff.mp spelled with ⟨more, rfl, rest'⟩ | ⟨more, chars, rest'⟩
    · rw [breadth_append, ← (headed piece List.mem_cons_self).cells_eq] at fits
      rw [ink_append, ih (fun other member => headed other (List.mem_cons_of_mem _ member))
        (fun other member => some other (List.mem_of_mem_tail member)) (fun _ => some) rest' (by omega)]
    · -- What follows the piece is white space.
      have none : ink (fitting (width - piece.cells) rest) = [] := by
        have part := ink_fitting_sublist (width - piece.cells) rest
        rw [ink_blank fun c member => blank c (rest' ▸ List.mem_append_right _ member)] at part
        exact List.sublist_nil.mp part
      rw [none, chars, ink_append, ink_blank fun c member => blank c (rest' ▸ List.mem_append_left _ member),
        List.append_nil, List.append_nil]
  | case4 width piece rest wide beyond =>
    obtain ⟨first, marks, chars, cells, -⟩ := headed piece List.mem_cons_self
    cases front with
    | nil => exact ink_replicate 1
    | cons c front =>
      rw [List.map_cons, List.flatten_cons, chars, List.cons_append, List.cons_append] at spelled
      obtain ⟨rfl, -⟩ := List.cons.inj spelled
      rw [breadth_cons] at fits
      omega

/-! White space at the end. -/

theorem trimEnd_append_blanks (chars : List Char) :
    ∃ blanks, chars = trimEnd chars ++ blanks ∧ (∀ c ∈ blanks, isBlank c = true) ∧
      blanks.length = (chars.reverse.takeWhile isBlank).length := by
  refine ⟨(chars.reverse.takeWhile isBlank).reverse, ?_, fun c member => ?_, List.length_reverse⟩
  · unfold trimEnd
    rw [← List.reverse_append, List.takeWhile_append_dropWhile, List.reverse_reverse]
  · exact List.mem_takeWhile_imp (List.mem_reverse.mp member)

theorem trimEnd_append (first second : List Char) :
    trimEnd (first ++ second) = if (trimEnd second).isEmpty then trimEnd first else first ++ trimEnd second := by
  unfold trimEnd
  rw [List.reverse_append, List.dropWhile_append, List.isEmpty_reverse]
  split
  · rfl
  · simp

theorem trimEnd_blank {chars : List Char} (blank : ∀ c ∈ chars, isBlank c = true) : trimEnd chars = [] := by
  unfold trimEnd
  rw [List.dropWhile_eq_nil_iff.mpr fun c member => blank c (List.mem_reverse.mp member)]
  rfl

theorem ink_trimEnd (chars : List Char) : ink (trimEnd chars) = ink chars := by
  obtain ⟨blanks, spelled, blank, -⟩ := trimEnd_append_blanks chars
  conv_rhs => rw [spelled, ink_append, ink_blank blank, List.append_nil]

theorem breadth_trimEnd_le (chars : List Char) : breadth (trimEnd chars) ≤ breadth chars := by
  obtain ⟨blanks, spelled, -⟩ := trimEnd_append_blanks chars
  conv_rhs => rw [spelled, breadth_append]
  omega

theorem breadth_trimEnd_append (first second : List Char) :
    breadth (trimEnd (first ++ second)) ≤ max (breadth (trimEnd first)) (breadth first + breadth (trimEnd second)) := by
  rw [trimEnd_append]
  split
  · omega
  · rw [breadth_append]
    omega

theorem trimEnd_append_blank (first : List Char) {second : List Char} (blank : ∀ c ∈ second, isBlank c = true) :
    trimEnd (first ++ second) = trimEnd first := by
  rw [trimEnd_append, trimEnd_blank blank]
  rfl

/-- White space that goes beyond a width is all that is trimmed. -/
theorem trimEnd_trimmedTo (width : Nat) (line : Marked) : trimEnd (trimmedTo width line).chars = trimEnd line.chars := by
  obtain ⟨blanks, spelled, blank, count⟩ := trimEnd_append_blanks line.chars
  obtain ⟨kept, taken⟩ : ∃ kept, (trimmedTo width line).chars = trimEnd line.chars ++ blanks.take kept := by
    refine ⟨blanks.length - min blanks.length (line.chars.length - width), ?_⟩
    change line.chars.take (line.chars.length - min _ _) = _
    rw [← count]
    generalize trimEnd line.chars = front at spelled ⊢
    rw [spelled, List.length_append, List.take_append, List.take_of_length_le (by omega)]
    congr 2
    omega
  rw [taken, trimEnd_append_blank _ fun c member => blank c (List.mem_of_mem_take member)]
  conv_rhs => rw [spelled, trimEnd_append_blank _ blank]

/-! Lines of a text in which every character takes its own cells. -/

theorem breadth_fitting_le {width : Nat} {pieces : List Grapheme} (headed : ∀ piece ∈ pieces, Headed piece) :
    breadth (fitting width pieces) ≤ width := by
  fun_induction fitting width pieces with
  | case1 => exact Nat.zero_le _
  | case2 => exact Nat.zero_le _
  | case3 width piece rest wide narrow ih =>
    obtain ⟨here, later⟩ := List.forall_mem_cons.mp headed
    rw [breadth_append, ← here.cells_eq]
    have := ih later
    omega
  | case4 width piece rest wide beyond =>
    have space := breadth_spaces 1
    rw [List.replicate_one] at space
    omega

section

variable {width : Nat} {filled : Bool} {line : Marked}

/-- Holds of texts that a line has room for. -/
structure Fits (width : Nat) (chars : List Char) : Prop where
  steady : Steady chars
  narrow : breadth chars ≤ width

theorem headOf_fits {chars : List Char} (room : 0 < width) (steady : Steady chars)
    (narrow : breadth (trimEnd chars) ≤ width) (wide : width < cells chars) :
    ∃ head, headOf width chars = .ok head ∧ ink head = ink chars ∧ Fits width head := by
  obtain ⟨headed, later⟩ := graphemes_headed steady
  obtain ⟨blanks, spelled, blank, -⟩ := trimEnd_append_blanks chars
  refine ⟨fitting width (graphemes chars), ?_, ?_, fun c member => ?_, breadth_fitting_le headed⟩
  · unfold headOf
    dsimp only
    rw [total_graphemes steady.unjoined, if_neg (by omega), if_neg (by omega), if_neg (by omega)]
  · rw [ink_fitting headed later (by omega) ((flatten_graphemes chars).trans spelled) blank narrow, ink_trimEnd]
  · rcases mem_fitting member with rfl | ⟨piece, part, there⟩
    · decide
    · exact steady c (mem_graphemes part there)

/-- A line that has room but for the white space at its end keeps all else. -/
theorem settled_fits (room : 0 < width) (steady : Steady line.chars) (narrow : breadth (trimEnd line.chars) ≤ width) :
    ∃ shown, settled width filled line = .ok shown ∧ ink shown.chars = ink line.chars ∧ Fits width shown.chars := by
  have kept : Steady (trimmedTo width line).chars := steady.subset (List.take_subset _ _)
  have same : ink (trimmedTo width line).chars = ink line.chars := by
    rw [← ink_trimEnd, trimEnd_trimmedTo, ink_trimEnd]
  unfold settled
  dsimp only
  split
  next wide =>
    obtain ⟨head, cut, inked, fits⟩ := headOf_fits room kept (by rwa [trimEnd_trimmedTo]) wide
    exact ⟨_, by rw [cut]; rfl, inked.trans same, fits⟩
  next enough =>
    rw [cells_steady kept] at enough ⊢
    split
    · refine ⟨_, rfl, ?_, ?_, ?_⟩
      · change ink (_ ++ List.replicate _ ' ') = _
        rw [ink_append, ink_replicate, List.append_nil, same]
      · intro c member
        rcases List.mem_append.mp member with before | space
        · exact kept c before
        · rw [List.eq_of_mem_replicate space]
          decide
      · change breadth (_ ++ List.replicate _ ' ') ≤ width
        rw [breadth_append, breadth_spaces]
        omega
    · exact ⟨_, rfl, same, kept, by omega⟩

/-- Rows of pieces are as wide as the width at most, and nothing is left out of them. -/
theorem chopped_fits {row : List Char} {used : Nat} {pieces : List Grapheme} (room : 2 ≤ width)
    (headed : ∀ piece ∈ pieces, Headed piece) (measured : used = breadth row.reverse) (narrow : used ≤ width)
    (some : 0 < used + total (pieces.map Grapheme.cells)) :
    (chopped width row used pieces).flatten = row.reverse ++ (pieces.map Grapheme.chars).flatten ∧
      ∀ part ∈ chopped width row used pieces, breadth part ≤ width := by
  fun_induction chopped width row used pieces with
  | case1 => exact absurd some (by simp [total])
  | case2 row used filled =>
    exact ⟨rfl, List.forall_mem_singleton.mpr (measured ▸ narrow)⟩
  | case3 row used piece rest beyond ih =>
    obtain ⟨here, later⟩ := List.forall_mem_cons.mp headed
    have small : piece.cells ≤ 2 := by
      obtain ⟨first, marks, -, cells, -⟩ := here
      exact cells ▸ charWidth_le first
    obtain ⟨whole, each⟩ := ih later (by rw [List.reverse_reverse, here.cells_eq]) (by omega) (by omega)
    rw [List.reverse_reverse] at whole
    refine ⟨by rw [List.flatten_cons, whole, List.map_cons, List.flatten_cons], ?_⟩
    exact List.forall_mem_cons.mpr ⟨measured ▸ narrow, each⟩
  | case4 row used piece rest fits ih =>
    obtain ⟨here, later⟩ := List.forall_mem_cons.mp headed
    rw [List.map_cons, total_cons] at some
    have reversed : (piece.chars.reverse ++ row).reverse = row.reverse ++ piece.chars := by simp
    rw [reversed] at ih
    obtain ⟨whole, each⟩ := ih later (by rw [breadth_append, measured, here.cells_eq]) (by omega) (by omega)
    exact ⟨by rw [whole, List.map_cons, List.flatten_cons, List.append_assoc], each⟩

/-- A word that is wider than a line is broken into rows without a loss. -/
theorem chopped_word {word : List Char} (room : 2 ≤ width) (steady : Steady word) (wide : width < cells word) :
    ∃ front last, chopped width [] 0 (graphemes word) = front ++ [last] ∧ front.flatten ++ last = word ∧
      (∀ row ∈ front, breadth row ≤ width) ∧ breadth last ≤ width := by
  obtain ⟨whole, each⟩ := @chopped_fits width [] 0 (graphemes word) room (graphemes_headed steady).1 rfl (Nat.zero_le _)
    (by rw [total_graphemes steady.unjoined]; omega)
  rw [flatten_graphemes, List.reverse_nil, List.nil_append] at whole
  rcases List.eq_nil_or_concat (chopped width [] 0 (graphemes word)) with none | ⟨front, last, some⟩
  · rw [none] at whole
    subst whole
    exact absurd wide (Nat.not_lt_zero _)
  · rw [List.concat_eq_append] at some
    rw [some] at whole each
    rw [List.flatten_append, List.flatten_singleton] at whole
    exact ⟨front, last, some, whole, fun row member => each row (List.mem_append_left _ member),
      each last (List.mem_append_right _ List.mem_cons_self)⟩

theorem fill_ne_nil (width : Nat) (line : List Char) (used : Nat) (words : List (List Char)) :
    fill width line used words ≠ [] := by
  fun_induction fill width line used words <;> simp_all

theorem fill_fits {start : List Char} {used : Nat} {words : List (List Char)} (room : 2 ≤ width)
    (steady : ∀ word ∈ words, Steady word) (measured : used = breadth start) (narrow : breadth (trimEnd start) ≤ width) :
    (fill width start used words).flatten = start ++ words.flatten ∧
      ∀ row ∈ fill width start used words, breadth (trimEnd row) ≤ width := by
  have bare {word : List Char} (here : Steady word) : cells (trimEnd word) = breadth (trimEnd word) := by
    obtain ⟨blanks, spelled, -⟩ := trimEnd_append_blanks word
    refine cells_steady fun c member => here c ?_
    rw [spelled]
    exact List.mem_append_left _ member
  have before (line : List Char) : (if line.isEmpty then [] else [line]).flatten = line := by
    cases line <;> simp
  have ended {line row : List Char} (narrow : breadth (trimEnd line) ≤ width)
      (member : row ∈ if line.isEmpty then [] else [line]) : breadth (trimEnd row) ≤ width := by
    split at member
    · cases member
    · rw [List.mem_singleton.mp member]
      exact narrow
  fun_induction fill width start used words with
  | case1 line used => exact ⟨by simp, List.forall_mem_singleton.mpr narrow⟩
  | case2 line used word rest free fits ih =>
    obtain ⟨here, later⟩ := List.forall_mem_cons.mp steady
    have joined := breadth_trimEnd_append line word
    rw [← bare here] at joined
    obtain ⟨whole, each⟩ := ih later (by rw [breadth_append, measured, cells_steady here]) (by omega)
    exact ⟨by rw [whole, List.flatten_cons, List.append_assoc], each⟩
  | case3 line used word rest free front full wide rows last ih =>
    obtain ⟨here, later⟩ := List.forall_mem_cons.mp steady
    have filled : free ≤ cells word := by
      have trimmed := breadth_trimEnd_le word
      rwa [← bare here, ← cells_steady here] at trimmed
    obtain ⟨broken, final, split, same, each, ending⟩ := chopped_word room here (by omega)
    obtain rfl : last = final := by simp [last, rows, split]
    have firsts : rows.dropLast = broken := by simp [rows, split]
    have steady' : Steady last := here.subset fun c member => same ▸ List.mem_append_right _ member
    obtain ⟨whole, others⟩ := ih later (cells_steady steady') ((breadth_trimEnd_le last).trans ending)
    rw [firsts]
    refine ⟨?_, fun row member => ?_⟩
    · rw [List.flatten_append, List.flatten_append, before, whole, List.flatten_cons, List.append_assoc,
        ← List.append_assoc broken.flatten, same]
    · rcases List.mem_append.mp member with earlier | after
      · rcases List.mem_append.mp earlier with first | piece
        · exact ended narrow first
        · exact (breadth_trimEnd_le row).trans (each row piece)
      · exact others row after
  | case4 line used word rest free front full small ih =>
    obtain ⟨here, later⟩ := List.forall_mem_cons.mp steady
    obtain ⟨whole, each⟩ := ih later (cells_steady here) (by rw [← bare here]; omega)
    refine ⟨by rw [List.flatten_append, before, whole, List.flatten_cons], fun row member => ?_⟩
    rcases List.mem_append.mp member with first | after
    · exact ended narrow first
    · exact each row after

/-- A line of a text keeps all but white space, in lines that it has room for. -/
theorem wrapLine_fits (room : 2 ≤ width) (steady : Steady line.chars) :
    ∃ lines, wrapLine width filled line = .ok lines ∧ inkOf lines = ink line.chars ∧
      ∀ shown ∈ lines, Fits width shown.chars := by
  have even : Steady (withoutTabs line).chars := by
    intro c member
    rcases mem_withoutTabs member with rfl | there
    · decide
    · exact steady c there
  have words : (spacedWords [] false false (withoutTabs line).chars).flatten = _ := flatten_spacedWords ..
  rw [List.reverse_nil, List.nil_append] at words
  have spaced : ∀ word ∈ spacedWords [] false false (withoutTabs line).chars, Steady word :=
    fun word member => even.subset fun c there => words ▸ List.mem_flatten_of_mem member there
  obtain ⟨whole, each⟩ := @fill_fits width [] 0 _ room spaced rfl (Nat.zero_le width)
  rw [words, List.nil_append] at whole
  have parts (part : Marked)
      (member : part ∈ (withoutTabs line).divided 0 (fill width [] 0 (spacedWords [] false false (withoutTabs line).chars))) :
      ∃ shown, settled width filled part = .ok shown ∧ ink shown.chars = ink part.chars ∧ Fits width shown.chars := by
    have row := chars_mem_slices (fill_ne_nil _ _ _ _) whole member
    exact settled_fits (by omega) (even.subset fun c there => whole ▸ List.mem_flatten_of_mem row there) (each _ row)
  obtain ⟨lines, done, same, fits⟩ := mapM_kept parts
  refine ⟨lines, done, ?_, fits⟩
  rw [← ink_withoutTabs line, ← inkOf_divided_eq (by rw [← ink_flatten, whole])]
  exact same

/-- A text in which nothing joins or widens keeps all but white space. -/
theorem wrap_fits {text : Marked} (room : 2 ≤ width) (steady : Steady text.chars) :
    ∃ lines, wrap width filled text = .ok lines ∧ inkOf lines = ink text.chars ∧
      ∀ shown ∈ lines, Fits width shown.chars := by
  have split := flatMap_ink_splitAtChar (show isBlank '\n' = true by decide) text.chars
  have parts (part : Marked) (member : part ∈ text.divided 1 (splitAtChar '\n' text.chars)) :
      ∃ lines, wrapLine width filled part = .ok lines ∧ inkOf lines = ink part.chars ∧
        ∀ shown ∈ lines, Fits width shown.chars :=
    wrapLine_fits room (steady.subset (chars_subset_of_divided (fun slice among c => mem_splitAtChar among) member))
  obtain ⟨rows, done, same, fits⟩ := mapM_kept parts
  refine ⟨rows.flatten, by unfold wrap; rw [done]; rfl, ?_, fun shown member => ?_⟩
  · rw [← @inkOf_divided_eq text 1 _ split, inkOf_flatten]
    exact same
  · obtain ⟨row, among, here⟩ := List.mem_flatten.mp member
    exact fits row among shown here

theorem total_cells {rows : List (List Char)} (steady : ∀ row ∈ rows, Steady row) :
    total (rows.map cells) = breadth rows.flatten := by
  induction rows with
  | nil => rfl
  | cons row rest ih =>
    obtain ⟨here, later⟩ := List.forall_mem_cons.mp steady
    rw [List.map_cons, total_cons, ih later, cells_steady here, List.flatten_cons, breadth_append]

/-- A line that there is room for is shown as it is. -/
theorem limited_fits (fits : Fits width line.chars) : limited width line.runs = .ok line.runs := by
  have steady (row : List Char) (member : row ∈ line.runs) : Steady row :=
    fits.steady.subset fun c there => flatten_runs line ▸ List.mem_flatten_of_mem member there
  unfold limited
  rw [total_cells steady, flatten_runs, if_pos fits.narrow]

end

end DataLayer.Terminal
