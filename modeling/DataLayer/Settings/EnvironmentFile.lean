import DataLayer.Entries
import DataLayer.Text.Blank
import DataLayer.Text.Line

/-! Files of environment variables: one binding a line, with comments, quotes, and references to
other variables. Lines that are no bindings are passed over. -/

namespace DataLayer.EnvironmentFile

open DataLayer.Text

/-- Holds of white space within a line. -/
def isSpace (c : Char) : Bool := isBlank c && c != '\n' && c != '\r'

/-- Holds of characters that end a line. -/
def isLineEnd (c : Char) : Bool := c == '\n' || c == '\r'

/-- What stands between quotes, and what follows the closing one. A character after a backslash is
taken as it is, and does not close. -/
def untilQuote (quote : Char) : List Char → Option (List Char × List Char)
  | [] => none
  | '\\' :: next :: rest =>
    (untilQuote quote rest).map fun (content, tail) => ('\\' :: next :: content, tail)
  | c :: rest =>
    if c == quote then some ([], rest)
    else (untilQuote quote rest).map fun (content, tail) => (c :: content, tail)

/-- The characters that a backslash stands before in double quotes, and what each of them means. -/
def doubleEscapes : List (Char × Char) :=
  [('\\', '\\'), ('\x27', '\x27'), ('\x22', '\x22'), ('a', '\x07'), ('b', '\x08'), ('f', '\x0c'),
    ('n', '\n'), ('r', '\r'), ('t', '\t'), ('v', '\x0b')]

/-- The characters that a backslash stands before in single quotes. -/
def singleEscapes : List (Char × Char) := [('\\', '\\'), ('\x27', '\x27')]

/-- Replaces a backslash and the character after it by what the two mean. -/
def unescape (escapes : List (Char × Char)) : List Char → List Char
  | [] => []
  | '\\' :: c :: rest =>
    match Entries.get? c escapes with
    | some meaning => meaning :: unescape escapes rest
    | none => '\\' :: unescape escapes (c :: rest)
  | c :: rest => c :: unescape escapes rest

/-- A value without quotes, up to a comment, which follows white space. -/
def withoutComment : List Char → List Char
  | [] => []
  | c :: rest =>
    if isBlank c && ((c :: rest).dropWhile isBlank).head? = some '#' then []
    else c :: withoutComment rest

/-- What follows the end of a line that holds nothing but a comment from here on. -/
def afterLine? (chars : List Char) : Option (List Char) :=
  let rest := chars.dropWhile isSpace
  let rest := if rest.head? = some '#' then rest.dropWhile (fun c => !isLineEnd c) else rest
  match rest with
  | [] => some []
  | c :: tail => if isLineEnd c then some tail else none

/-- What follows the end of a line, whatever it holds. -/
def skipLine (chars : List Char) : List Char := (chars.dropWhile fun c => !isLineEnd c).drop 1

/-- Reads a value, and tells what follows it. The second part is where reading stopped when there
is no value. -/
def readValue (chars : List Char) : Except (List Char) (List Char × List Char) :=
  match chars with
  | '\x27' :: rest =>
    match untilQuote '\x27' rest with
    | some (content, tail) => .ok (unescape singleEscapes content, tail)
    | none => .error chars
  | '\x22' :: rest =>
    match untilQuote '\x22' rest with
    | some (content, tail) => .ok (unescape doubleEscapes content, tail)
    | none => .error chars
  | chars =>
    let line := chars.takeWhile fun c => !isLineEnd c
    let value := (withoutComment line).reverse.dropWhile isBlank |>.reverse
    .ok (value, chars.drop line.length)

/-- Leaves out the word that marks a variable for export. -/
def withoutExport (chars : List Char) : List Char :=
  if "export".toList.isPrefixOf chars && ((chars.drop 6).head?.any isSpace) then
    (chars.drop 6).dropWhile isSpace
  else chars

/-- Reads a key. A comment stands in for a key that is none. -/
def readKey (chars : List Char) : Option (Option (List Char) × List Char) :=
  match chars with
  | '#' :: _ => some (none, chars)
  | '\x27' :: rest =>
    let key := rest.takeWhile fun c => c != '\x27'
    if key.isEmpty || rest.length == key.length then none
    else some (some key, rest.drop (key.length + 1))
  | chars =>
    let key := chars.takeWhile fun c => c != '=' && c != '#' && !isBlank c
    if key.isEmpty then none else some (some key, chars.drop key.length)

/-- A binding: a key, and a value unless the key stands alone. -/
abbrev Binding := String × Option String

/-- Reads what follows the sign between a key and its value. A comment after white space leaves the
value empty. -/
def readAssigned (chars : List Char) : Except (List Char) (List Char × List Char) :=
  let start := chars.dropWhile isSpace
  if start.head? = some '#' && chars.head? != some '#' then .ok ([], start) else readValue start

/-- Reads what follows a key. The second part is where reading stopped. -/
def readRest (chars : List Char) : Except (List Char) (Option (List Char) × List Char) :=
  let chars := chars.dropWhile isSpace
  match chars with
  | '=' :: rest => do
    let (value, tail) ← readAssigned rest
    match afterLine? tail with
    | some tail => .ok (some value, tail)
    | none => .error tail
  | chars =>
    match afterLine? chars with
    | some tail => .ok (none, tail)
    | none => .error chars

/-- Reads one line, or several when a quoted value goes over them. -/
def readBinding (chars : List Char) : Option Binding × List Char :=
  let chars := withoutExport chars
  match readKey chars with
  | none => (none, skipLine chars)
  | some (key, tail) =>
    match readRest tail with
    | .ok (value, tail) =>
      (key.map fun key => (String.ofList key, value.map String.ofList), tail)
    | .error tail => (none, skipLine tail)

/-- Reads bindings; `fuel` bounds the number of lines. -/
def readBindings : Nat → List Char → List Binding
  | 0, _ => []
  | fuel + 1, chars =>
    match chars.dropWhile isBlank with
    | [] => []
    | chars =>
      let (binding, tail) := readBinding chars
      binding.toList ++ readBindings fuel tail

/-- The bindings of a file in order. -/
def bindings (text : String) : List Binding :=
  let chars := unifyLineEnds text.toList
  readBindings (chars.length + 1) chars

/-- A reference to a variable, with what stands in for one that is not set. -/
structure Reference where
  name : List Char
  fallback : List Char := []

/-- Reads a reference after its opening brace. -/
def reference? (chars : List Char) : Option (Reference × List Char) :=
  let name := chars.takeWhile fun c => c != '\x7d' && c != ':'
  match chars.drop name.length with
  | '\x7d' :: tail => some ({ name }, tail)
  | ':' :: '-' :: rest =>
    let fallback := rest.takeWhile (· != '\x7d')
    match rest.drop fallback.length with
    | _ :: tail => some ({ name, fallback }, tail)
    | [] => none
  | _ => none

/-- Replaces the references in a value; `fuel` bounds the number of characters. -/
def expand (assigned : List (String × Option String)) : Nat → List Char → List Char
  | 0, chars => chars
  | _, [] => []
  | fuel + 1, '$' :: '\x7b' :: rest =>
    match reference? rest with
    | some (reference, tail) =>
      let value := match Entries.get? (String.ofList reference.name) assigned with
        | some (some value) => value.toList
        | some none => []
        | none => reference.fallback
      value ++ expand assigned fuel tail
    | none => '$' :: expand assigned fuel ('\x7b' :: rest)
  | fuel + 1, c :: rest => c :: expand assigned fuel rest

/-- The variables of a file, references being replaced. A reference sees the surrounding
environment and the variables further up in the file, of which the latter win. -/
def resolve (environment : List (String × String)) (bindings : List Binding) : List Binding :=
  bindings.foldl (fun resolved binding =>
    let visible := Entries.putAll (environment.map fun e => (e.1, some e.2)) resolved
    let value := binding.2.map fun text =>
      String.ofList (expand visible (text.length + 1) text.toList)
    Entries.put binding.1 value resolved) []

/-- The variables of a file; one that has no value hides an earlier one of its name. -/
def assignments (environment : List (String × String)) (text : String) : List Binding :=
  resolve environment (bindings text)

end DataLayer.EnvironmentFile
