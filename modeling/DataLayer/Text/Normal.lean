import DataLayer.Text.Blank
import DataLayer.Text.NormalTable

/-! The normal form of identifiers. Characters that are only written differently become one: each is
taken apart, marks are put in order, and what can be joined is joined again. Two identifiers are the
same name when their normal forms are the same. -/

namespace DataLayer.Text

/-- An entry of a table: the code points `first` to `last`, and what they stand for. -/
structure CodeEntry where
  first : Nat
  last : Nat
  values : List Nat

private def hexValue (c : Char) : Nat := if c.isDigit then c.toNat - 48 else c.toNat - 87

private def codeOf (digits : List Char) : Nat :=
  digits.foldl (fun total c => 16 * total + hexValue c) 0

/-- Reads an entry: one code point or two, and the code points that they stand for. -/
def CodeEntry.ofWord (word : List Char) : CodeEntry :=
  let key := word.takeWhile (· != '=')
  let codes := (splitAtChar '-' key).map codeOf
  let first := codes.headD 0
  { first, last := codes.getLastD first,
    values := (splitAtChar '-' (word.drop (key.length + 1))).map codeOf }

/-- The entries of a table. -/
def entriesOf (rows : List String) : List CodeEntry :=
  rows.flatMap fun row => (words row.toList).map CodeEntry.ofWord

/-- The tables that normal forms are made by. -/
structure NormalTables where
  parts : List CodeEntry
  marks : List CodeEntry
  joins : List CodeEntry

/-- The tables as they are kept. -/
def normalTables : NormalTables where
  parts := entriesOf partRows
  marks := entriesOf markRows
  joins := entriesOf joinRows

/-- The first syllable that is made of letters, and how many vowels and final letters there are;
a final letter can be absent. -/
def syllableStart : Nat := 0xac00

/-- The number of syllables. -/
def syllableCount : Nat := 11172

/-- The letters that a syllable is made of. -/
def syllableParts (index : Nat) : List Nat :=
  let final := index % 28
  [0x1100 + index / 588, 0x1161 + index % 588 / 28]
    ++ (if final = 0 then [] else [0x11a7 + final])

namespace NormalTables

/-- What a character is made of. -/
def partsOf (t : NormalTables) (code : Nat) : List Nat :=
  if syllableStart ≤ code && code < syllableStart + syllableCount then
    syllableParts (code - syllableStart)
  else match t.parts.find? fun entry => entry.first ≤ code && code ≤ entry.last with
    | some entry =>
      match entry.values with
      | [value] => [value + (code - entry.first)]
      | values => values
    | none => [code]

/-- The order of a mark; zero for everything else. -/
def markOf (t : NormalTables) (code : Nat) : Nat :=
  match t.marks.find? fun entry => entry.first ≤ code && code ≤ entry.last with
  | some entry => entry.values.headD 0
  | none => 0

/-- Puts each run of marks in order; `run` holds the marks of the last one so far. -/
def ordered (run : List (Nat × Nat)) : List (Nat × Nat) → List (Nat × Nat)
  | [] => sorted run
  | (code, mark) :: rest =>
    if mark = 0 then sorted run ++ (code, mark) :: ordered [] rest
    else ordered (run ++ [(code, mark)]) rest
where
  sorted (run : List (Nat × Nat)) : List (Nat × Nat) := run.mergeSort fun a b => a.2 ≤ b.2

/-- The character that two others join into: two letters of a syllable, a syllable and a final
letter, or a pair that the table knows. -/
def joined? (t : NormalTables) (a b : Nat) : Option Nat :=
  if 0x1100 ≤ a && a < 0x1113 && 0x1161 ≤ b && b < 0x1176 then
    some (syllableStart + ((a - 0x1100) * 21 + (b - 0x1161)) * 28)
  else if syllableStart ≤ a && a < syllableStart + syllableCount && (a - syllableStart) % 28 = 0
      && 0x11a7 < b && b < 0x11c3 then
    some (a + (b - 0x11a7))
  else (t.joins.find? fun entry => entry.first == a && entry.last == b).map fun entry =>
    entry.values.headD 0

/-- Joins what can be joined. `starter` is the last character that is no mark, `between` are the
marks after it that did not join, and `last` is the order of the latest of them. -/
def join (t : NormalTables) (starter : Nat) (between : List Nat) (last : Nat) :
    List (Nat × Nat) → List Nat
  | [] => starter :: between
  | (code, mark) :: rest =>
    let isFree := between.isEmpty || last < mark
    match if isFree then t.joined? starter code else none with
    | some whole => join t whole between last rest
    | none =>
      if mark = 0 then starter :: between ++ join t code [] 0 rest
      else join t starter (between ++ [code]) mark rest

/-- The normal form of a row of code points. -/
def normalize (t : NormalTables) (codes : List Nat) : List Nat :=
  let parts := (codes.flatMap t.partsOf).map fun code => (code, t.markOf code)
  match ordered [] parts with
  | [] => []
  | (code, mark) :: rest => t.join code [] mark rest

end NormalTables

/-- The normal form of an identifier. One of plain letters is its own. -/
def normalForm (text : String) : String :=
  if text.toList.all fun c => c.toNat < 128 then text
  else String.ofList
    ((normalTables.normalize (text.toList.map Char.toNat)).map Char.ofNat)

end DataLayer.Text
