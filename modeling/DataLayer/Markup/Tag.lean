/-! The pieces of marked-up text: plain characters, and tags between square brackets. A backslash
before a bracket keeps the bracket, and two stand for one. -/

namespace DataLayer.Markup

/-- Holds of the characters that a tag can start with. -/
def isTagStart (c : Char) : Bool := ('a' ≤ c && c ≤ 'z') || c == '#' || c == '/' || c == '@'

/-- Holds of the characters that do not end a tag. -/
def isTagChar (c : Char) : Bool := c != ']' && c != '['

/-- A bracketed tag at the head of a row of characters, after backslashes. -/
structure Bracket (chars : List Char) where
  slashes : Nat
  content : List Char
  rest : List Char
  shorter : rest.length < chars.length

/-- Reads a bracketed tag. -/
def bracket? (chars : List Char) : Option (Bracket chars) :=
  match opened : chars.dropWhile (· == '\\') with
  | '[' :: c :: tail =>
    match closed : tail.dropWhile isTagChar with
    | ']' :: rest =>
      if isTagStart c then
        some { slashes := (chars.takeWhile (· == '\\')).length
               content := c :: tail.takeWhile isTagChar
               rest
               shorter := by
                 have first := (List.dropWhile_suffix (l := chars) (· == '\\')).length_le
                 have second := (List.dropWhile_suffix (l := tail) isTagChar).length_le
                 rw [opened] at first
                 rw [closed] at second
                 simp only [List.length_cons] at first second
                 omega }
      else none
    | _ => none
  | _ => none

/-- A piece of marked-up text. -/
inductive Piece where
  | plain (chars : List Char)
  | tag (content : List Char)

/-- The pieces that a bracketed tag is. Two backslashes are one, and an odd one makes the tag
plain. -/
def Bracket.pieces {chars : List Char} (bracket : Bracket chars) : List Piece :=
  (if bracket.slashes < 2 then []
    else [.plain (List.replicate (bracket.slashes / 2) '\\')])
    ++ (if bracket.slashes % 2 = 1 then [.plain ('[' :: bracket.content ++ [']'])]
      else [.tag bracket.content])

private def pending (before : List Char) : List Piece :=
  if before.isEmpty then [] else [.plain before.reverse]

/-- Reads pieces from left to right; `before` holds the plain characters so far, reversed. -/
def piecesAfter (before chars : List Char) : List Piece :=
  match chars with
  | [] => pending before
  | c :: rest =>
    match bracket? (c :: rest) with
    | some bracket =>
      have : bracket.rest.length < rest.length + 1 := bracket.shorter
      pending before ++ bracket.pieces ++ piecesAfter [] bracket.rest
    | none => piecesAfter (c :: before) rest
termination_by chars.length

/-- The pieces of a marked-up text. -/
def pieces (text : String) : List Piece := piecesAfter [] text.toList

end DataLayer.Markup
