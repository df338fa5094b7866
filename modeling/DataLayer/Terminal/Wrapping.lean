import DataLayer.Markup.Line

/-! Text in lines of a given width. Lines are broken before words; a word that is wider than a
line is broken where the line is full. Tabs reach to the next multiple of eight.

A line is broken by its width as a whole, and shown by the widths of its runs, one after the other.
These differ where a joiner ends a run, since it hides nothing of the next one. -/

namespace DataLayer.Terminal

open DataLayer.Markup DataLayer.Text

/-- The distance between the places that tabs reach to. -/
def tabWidth : Nat := 8

/-- Spaces. -/
def spaces (count : Nat) : List Char := List.replicate count ' '

/-- The slices of a line before its tabs and after the last one, each with spaces in place of its
tab. `start` is the place of the first slice and `used` are the cells before it. -/
def tabbed (line : Marked) (start used : Nat) : List (List Char) → List Marked
  | [] => []
  | [slice] => [line.sliceFrom start slice]
  | slice :: next :: rest =>
    let chars := slice ++ [' ']
    let reached := used + cells chars
    let more := (tabWidth - reached % tabWidth) % tabWidth
    (line.sliceFrom start chars).stretched more
      :: tabbed line (start + chars.length) (reached + more) (next :: rest)

/-- A line with spaces in place of its tabs. -/
def withoutTabs (line : Marked) : Marked :=
  match splitAtChar '\t' line.chars with
  | [] | [_] => line
  | slices => (tabbed line 0 0 slices).foldr Marked.append ⟨[], []⟩

/-- Words together with the white space after them, and for the first one also before it. `word`
holds the last one so far, reversed, and `ended` tells that white space follows it. -/
def spacedWords (word : List Char) (begun ended : Bool) : List Char → List (List Char)
  | [] => if word.isEmpty then [] else [word.reverse]
  | c :: rest =>
    if isBlank c then spacedWords (c :: word) begun begun rest
    else if ended then word.reverse :: spacedWords [c] true false rest
    else spacedWords (c :: word) true false rest

/-- Pieces of text in rows that are as full as the width lets them be. `row` holds the last one so
far, reversed, and `used` its cells; a last row without cells is left out. -/
def chopped (width : Nat) (row : List Char) (used : Nat) : List Grapheme → List (List Char)
  | [] => if used = 0 then [] else [row.reverse]
  | piece :: rest =>
    if width < used + piece.cells then
      row.reverse :: chopped width piece.chars.reverse piece.cells rest
    else chopped width (piece.chars.reverse ++ row) (used + piece.cells) rest

/-- A row of characters without the white space at its end. -/
def trimEnd (chars : List Char) : List Char := (chars.reverse.dropWhile isBlank).reverse

/-- Adds words to lines; `line` is the last line so far, and `used` its cells. -/
def fill (width : Nat) (line : List Char) (used : Nat) : List (List Char) → List (List Char)
  | [] => [line]
  | word :: rest =>
    let bare := cells (trimEnd word)
    let before := if line.isEmpty then [] else [line]
    if used + bare ≤ width then fill width (line ++ word) (used + cells word) rest
    else if width < bare then
      let rows := chopped width [] 0 (graphemes word)
      let last := rows.getLast?.getD []
      before ++ rows.dropLast ++ fill width last (cells last) rest
    else before ++ fill width word (cells word) rest

/-- The pieces that fit into a width. A wide one that does not fit leaves a space. -/
def fitting (width : Nat) : List Grapheme → List Char
  | [] => []
  | piece :: rest =>
    if width = 0 then []
    else if piece.cells ≤ width then piece.chars ++ fitting (width - piece.cells) rest
    else [' ']

/-- The cells of pieces together. -/
def total (widths : List Nat) : Nat := widths.foldl (· + ·) 0

/-- The head of a text that is wider than a width. A joiner that follows one at the start counts as
hidden where a text is measured and as hiding where it is split, so that nothing may be left. -/
def headOf (width : Nat) (chars : List Char) : Except Misuse (List Char) :=
  let pieces := graphemes chars
  let full := total (pieces.map Grapheme.cells)
  if width = 0 then .ok []
  else if full = 0 then .error .dividedByZero
  else if full < width then .error (.outOfRange "list index out of range")
  else .ok (fitting width pieces)

/-- A line without the white space at its end that goes beyond a width. -/
def trimmedTo (width : Nat) (line : Marked) : Marked :=
  let blanks := (line.chars.reverse.takeWhile isBlank).length
  let excess := line.chars.length - width
  line.withChars (line.chars.take (line.chars.length - min blanks excess))

/-- A line in a width: what is over is cut, and `filled` lines have spaces up to it. -/
def settled (width : Nat) (filled : Bool) (line : Marked) : Except Misuse Marked :=
  let kept := trimmedTo width line
  let used := cells kept.chars
  if width < used then (headOf width kept.chars).map kept.withChars
  else if filled then .ok (kept.withChars (kept.chars ++ spaces (width - used)))
  else .ok kept

/-- One line of a text in lines of a width. -/
def wrapLine (width : Nat) (filled : Bool) (line : Marked) : Except Misuse (List Marked) :=
  let line := withoutTabs line
  (line.divided 0 (fill width [] 0 (spacedWords [] false false line.chars))).mapM
    (settled width filled)

/-- A text in lines of a width. -/
def wrap (width : Nat) (filled : Bool) (text : Marked) : Except Misuse (List Marked) :=
  ((text.divided 1 (splitAtChar '\n' text.chars)).mapM (wrapLine width filled)).map List.flatten

/-- Pieces that reach over a width together, cut to it. -/
def cropped (width : Nat) : List (List Char) → Except Misuse (List (List Char))
  | [] => .ok []
  | piece :: rest =>
    let used := cells piece
    if used < width then (cropped (width - used) rest).map (piece :: ·)
    else if used = width then .ok [piece]
    else (headOf width piece).map ([·])

/-- Pieces in a width. -/
def limited (width : Nat) (pieces : List (List Char)) : Except Misuse (List (List Char)) :=
  if total (pieces.map cells) ≤ width then .ok pieces else cropped width pieces

/-- Pieces that take a width, with spaces after them where they are too few. -/
def adjusted (width : Nat) (pieces : List (List Char)) : Except Misuse (List (List Char)) :=
  let used := total (pieces.map cells)
  if used < width then .ok (pieces ++ [spaces (width - used)]) else limited width pieces

end DataLayer.Terminal
