import DataLayer.Text.WidthTable

/-! The width of a text on a terminal, in cells, and its smallest visible pieces.

A joiner hides the character after it, and a selector of pictures widens the narrow character
before it where that one has a picture. -/

namespace DataLayer.Text

/-- Holds of characters in one of some ranges. -/
def isInside (ranges : List (Nat × Nat)) (c : Char) : Bool :=
  ranges.any fun range => range.1 ≤ c.toNat && c.toNat ≤ range.2

/-- The cells that one character takes: none for controls and marks, two for wide ones. -/
def charWidth (c : Char) : Nat :=
  if c.toNat < 32 || (0x7f ≤ c.toNat && c.toNat < 0xa0) then 0
  else if c.toNat < 0x300 then 1
  else if isInside silentRanges c then 0
  else if isInside wideRanges c then 2
  else 1

/-- The character that joins the characters around it to one picture. -/
def joiner : Char := Char.ofNat 0x200d

/-- The character that asks for a picture of the character before it. -/
def selector : Char := Char.ofNat 0xfe0f

/-- The cells that a selector adds to the character that was measured last. -/
def widening (last : Option Char) : Nat :=
  match last with
  | some c => if isInside widenedRanges c then 1 else 0
  | none => 0

/-- The cells of a row of characters; `last` is the character before it that was measured last and
may still be widened. -/
def cellsAfter (last : Option Char) : List Char → Nat
  | [] => 0
  | [c] => if c = joiner then 0 else if c = selector then widening last else charWidth c
  | c :: next :: rest =>
    if c = joiner then cellsAfter last rest
    else if c = selector then widening last + cellsAfter none (next :: rest)
    else if charWidth c = 0 then cellsAfter last (next :: rest)
    else charWidth c + cellsAfter (some c) (next :: rest)

/-- The cells that a row of characters takes. -/
def cells (chars : List Char) : Nat := cellsAfter none chars

/-- A piece of text that is shown as one, and the cells that it takes. -/
structure Grapheme where
  chars : List Char
  cells : Nat

/-- Adds characters to a piece, and cells where they widen it. -/
def Grapheme.extend (piece : Grapheme) (more : List Char) (wider : Nat) : Grapheme where
  chars := piece.chars ++ more
  cells := piece.cells + wider

/-- The pieces of a row of characters after the piece so far. Characters without a cell belong to
the piece before them; only the first piece can be without one. -/
def graphemesAfter (piece : Grapheme) (last : Option Char) : List Char → List Grapheme
  | [] => [piece]
  | [c] =>
    if c = joiner then [piece.extend [c] 0]
    else if c = selector then [piece.extend [c] (widening last)]
    else if charWidth c = 0 then [piece.extend [c] 0]
    else [piece, ⟨[c], charWidth c⟩]
  | c :: next :: rest =>
    if c = joiner then graphemesAfter (piece.extend [c, next] 0) last rest
    else if c = selector then
      graphemesAfter (piece.extend [c] (widening last)) none (next :: rest)
    else if charWidth c = 0 then graphemesAfter (piece.extend [c] 0) last (next :: rest)
    else piece :: graphemesAfter ⟨[c], charWidth c⟩ (some c) (next :: rest)

/-- The pieces of a row of characters. -/
def graphemes : List Char → List Grapheme
  | [] => []
  | c :: rest =>
    let width := if c = joiner || c = selector then 0 else charWidth c
    graphemesAfter ⟨[c], width⟩ (if width = 0 then none else some c) rest

end DataLayer.Text
