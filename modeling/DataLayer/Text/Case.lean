import DataLayer.Text.CaseTable

/-! Upper and lower case of whole texts. A character may become several, and a sigma that ends
a word is lowered to its final form. -/

namespace DataLayer.Text

/-- The shift of the first run that a code point lies on. -/
def shiftOf? (runs : List (Nat × Nat × Nat × Int)) (code : Nat) : Option Int :=
  (runs.find? fun run =>
    run.1 ≤ code && code ≤ run.2.1 && (code - run.1) % run.2.2.1 == 0).map fun run => run.2.2.2

/-- A character moved by the shift of its run, or itself on no run. -/
def shifted (runs : List (Nat × Nat × Nat × Int)) (c : Char) : Char :=
  match shiftOf? runs c.toNat with
  | some shift => Char.ofNat (Int.toNat (c.toNat + shift))
  | none => c

/-- The upper-case form of one character. -/
def upperChar (c : Char) : List Char :=
  match upperSequences.find? fun entry => entry.1 == c.toNat with
  | some entry => entry.2.map Char.ofNat
  | none => [shifted upperRuns c]

/-- A text in upper case. -/
def upper (text : String) : String := String.ofList (text.toList.flatMap upperChar)

private def within (ranges : List (Nat × Nat)) (c : Char) : Bool :=
  ranges.any fun range => range.1 ≤ c.toNat && c.toNat ≤ range.2

/-- Holds when the nearest character that counts for a sigma has case. -/
def meetsCased (chars : List Char) : Bool :=
  match chars.dropWhile (within caseIgnorableRanges) with
  | [] => false
  | c :: _ => within casedRanges c

/-- The lower-case form of one character between its neighbours; `before` is reversed. -/
def lowerChar (before : List Char) (c : Char) (after : List Char) : List Char :=
  if c.toNat == 0x3a3 then
    if meetsCased before && !meetsCased after then [Char.ofNat 0x3c2] else [Char.ofNat 0x3c3]
  else if c.toNat == 0x130 then ['i', Char.ofNat 0x307]
  else [shifted lowerRuns c]

/-- Lowers the characters from left to right; `before` holds those already read, reversed. -/
def lowerChars (before : List Char) : List Char → List Char
  | [] => []
  | c :: rest => lowerChar before c rest ++ lowerChars (c :: before) rest

/-- A text in lower case. -/
def lower (text : String) : String := String.ofList (lowerChars [] text.toList)

end DataLayer.Text
