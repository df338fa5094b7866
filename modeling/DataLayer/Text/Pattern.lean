import DataLayer.Text.Word

/-! Patterns of text. A pattern is tried from left to right, and of the ways to match it the first
one counts that lets everything after it match too. -/

namespace DataLayer.Text

/-- A pattern. -/
inductive Pattern where
  /-- One character of a kind. -/
  | one (holds : Char → Bool)
  /-- Characters as they stand. -/
  | exactly (chars : List Char)
  | andThen (first second : Pattern)
  /-- The second pattern where the first one leads to no match. -/
  | orElse (first second : Pattern)
  /-- A pattern as often as it goes between two bounds, or as seldom. -/
  | repeated (most : Bool) (low : Nat) (high : Option Nat) (inner : Pattern)
  /-- A pattern whose place is noted. -/
  | noted (inner : Pattern)
  /-- Nothing, unless a character of a kind stands before it. -/
  | notAfter (holds : Char → Bool)
  /-- Nothing, where a word starts or ends, or where none does. -/
  | wordEdge (present : Bool)

/-- How far a text is read: the character before the place, what follows it, the number of
characters before it, and the places that were noted, as starts and ends, the last one first. -/
structure Reading where
  before : Option Char
  rest : List Char
  offset : Nat
  notes : List (Nat × Nat) := []

namespace Reading

/-- Reads characters that the text goes on with. -/
def skip (reading : Reading) : List Char → Option Reading
  | [] => some reading
  | c :: chars =>
    match reading.rest with
    | next :: rest =>
      if next = c then
        skip { reading with before := some c, rest, offset := reading.offset + 1 } chars
      else none
    | [] => none

/-- Reads one character of a kind. -/
def step (reading : Reading) (holds : Char → Bool) : Option Reading :=
  match reading.rest with
  | next :: rest =>
    if holds next then
      some { reading with before := some next, rest, offset := reading.offset + 1 }
    else none
  | [] => none

/-- Holds where a word starts or ends. -/
def atWordEdge (reading : Reading) : Bool :=
  (reading.before.any isWordChar) != (reading.rest.head?.any isWordChar)

end Reading

namespace Pattern

/-- What is left to be read after a pattern, if it matches. -/
abbrev Continuation := Reading → Option Reading

/-- Reads something up to `high` times and at least `low` times, `most` telling whether often or
seldom is tried first. -/
def again (once : Reading → Continuation → Option Reading) (most : Bool) (low : Nat) :
    Nat → Reading → Continuation → Option Reading
  | 0, reading, next => if low = 0 then next reading else none
  | high + 1, reading, next =>
    let more (_ : Unit) := once reading fun after => again once most (low - 1) high after next
    if 0 < low then more ()
    else if most then (more ()).orElse fun _ => next reading
    else (next reading).orElse more

/-- Reads a pattern and what is left after it. A pattern is repeated at most as often as there are
characters. -/
def run : Pattern → Reading → Continuation → Option Reading
  | one holds, reading, next => (reading.step holds).bind next
  | exactly chars, reading, next => (reading.skip chars).bind next
  | andThen first second, reading, next =>
    first.run reading fun middle => second.run middle next
  | orElse first second, reading, next =>
    (first.run reading next).orElse fun _ => second.run reading next
  | repeated most low high inner, reading, next =>
    again inner.run most low (high.getD reading.rest.length) reading next
  | noted inner, reading, next =>
    inner.run reading fun after =>
      next { after with notes := (reading.offset, after.offset) :: after.notes }
  | notAfter holds, reading, next => if reading.before.any holds then none else next reading
  | wordEdge present, reading, next =>
    if reading.atWordEdge = present then next reading else none

/-- The places that are noted in the matches of a pattern within a text. A match starts where the
one before it ends or later; `skipped` characters belong to the last one still. -/
def notesFrom (pattern : Pattern) (skipped : Nat) (before : Option Char) (offset : Nat) :
    List Char → List (Nat × Nat)
  | [] => []
  | c :: rest =>
    match skipped with
    | skipped + 1 => pattern.notesFrom skipped (some c) (offset + 1) rest
    | 0 =>
      match pattern.run { before, rest := c :: rest, offset } some with
      | some found =>
        found.notes ++ pattern.notesFrom (found.offset - offset - 1) (some c) (offset + 1) rest
      | none => pattern.notesFrom 0 (some c) (offset + 1) rest

/-- The places that are noted in the matches of a pattern within a text. -/
def notesIn (pattern : Pattern) (text : List Char) : List (Nat × Nat) :=
  pattern.notesFrom 0 none 0 text

/-- Patterns one after the other. -/
def all : List Pattern → Pattern
  | [] => exactly []
  | [last] => last
  | first :: rest => first.andThen (all rest)

/-- The first of some patterns that leads to a match. -/
def any : List Pattern → Pattern
  | [] => one fun _ => false
  | [last] => last
  | first :: rest => first.orElse (any rest)

/-- Characters as they stand. -/
def text (chars : String) : Pattern := exactly chars.toList

/-- One of some characters. -/
def oneOf (chars : String) : Pattern := one chars.toList.contains

/-- A pattern as often as it goes. -/
def many (inner : Pattern) : Pattern := repeated true 0 none inner

/-- A pattern as often as it goes, and at least once. -/
def atLeastOnce (inner : Pattern) : Pattern := repeated true 1 none inner

/-- A pattern or nothing. -/
def maybe (inner : Pattern) : Pattern := repeated true 0 (some 1) inner

/-- A pattern some times over. -/
def times (count : Nat) (inner : Pattern) : Pattern := repeated true count (some count) inner

/-- A pattern once or up to some times. -/
def upTo (count : Nat) (inner : Pattern) : Pattern := repeated true 1 (some count) inner

end Pattern
end DataLayer.Text
