import DataLayer.Text.Blank
import DataLayer.Text.Digit
import DataLayer.Text.Identifier
import DataLayer.Text.Line
import DataLayer.Text.Name
import DataLayer.Text.Normal

/-! Literal values: numbers, quoted texts, three constants, the ellipsis, and tuples, sets and
tables of them. Only whether a text spells such a value is of interest here, not which one. -/

namespace DataLayer.Markup

open DataLayer.Text

/-- The smallest parts of a literal value. -/
inductive LiteralToken where
  | number (imaginary : Bool)
  | quoted (bytes : Bool)
  | name (word : String)
  | mark (c : Char)
deriving DecidableEq

namespace LiteralToken

/-- Holds when what follows a backslash can follow it. -/
private def isEscape (bytes : Bool) (c : Char) (rest : List Char) : Bool :=
  let coded (count : Nat) : Bool := (rest.take count).length == count
    && (rest.take count).all isHexDigit
  if c = 'x' then coded 2
  else if bytes then true
  else if c = 'u' then coded 4
  else if c = 'U' then coded 8 && (rest.take 3 == ['0', '0', '0'] || rest.take 4 == "0010".toList)
  else if c = 'N' then rest.head? == some '\x7b' && rest.contains '\x7d'
    && isCharacterName ((rest.drop 1).takeWhile (· != '\x7d'))
  else true

/-- What follows a quoted text, once its closing quote is found. -/
def afterQuote (raw bytes : Bool) (quote : Char) (triple : Bool) : List Char → Option (List Char)
  | [] => none
  | [c] => if c = quote && !triple then some [] else none
  | c :: next :: rest =>
    if c = '\\' then
      if bytes && 127 < next.toNat then none
      else if raw || isEscape bytes next rest then afterQuote raw bytes quote triple rest else none
    else if c = quote then
      if !triple then some (next :: rest)
      else if next = quote && rest.head? = some quote then some (rest.drop 1)
      else afterQuote raw bytes quote triple (next :: rest)
    else if (c = '\n' && !triple) || (bytes && 127 < c.toNat) then none
    else afterQuote raw bytes quote triple (next :: rest)

/-- Holds of digits with single underscores between them. -/
private def isDigitRow (isOne : Char → Bool) (chars : List Char) : Bool :=
  let parts := splitAtChar '_' chars
  parts.all fun part => !part.isEmpty && part.all isOne

/-- Holds of whole numbers: without zeros in front, or in base two, eight or sixteen. -/
private def isWholeNumber (chars : List Char) : Bool :=
  let based (isOne : Char → Bool) (digits : List Char) : Bool :=
    isDigitRow isOne (if digits.head? = some '_' then digits.drop 1 else digits)
  match chars with
  | '0' :: 'x' :: digits | '0' :: 'X' :: digits => based isHexDigit digits
  | '0' :: 'o' :: digits | '0' :: 'O' :: digits => based (fun c => '0' ≤ c && c ≤ '7') digits
  | '0' :: 'b' :: digits | '0' :: 'B' :: digits => based (fun c => c == '0' || c == '1') digits
  | '0' :: _ => isDigitRow (· == '0') chars
  | _ => isDigitRow Char.isDigit chars && (chars.filter Char.isDigit).length ≤ 4300

/-- Holds of decimal numbers, whose exponent is cut off first. -/
private def isFraction (chars : List Char) : Bool :=
  let isExponent (c : Char) : Bool := c == 'e' || c == 'E'
  let front := chars.takeWhile fun c => !isExponent c
  let power := (chars.drop front.length).drop 1
  let unsigned := if power.head? = some '-' || power.head? = some '+' then power.drop 1 else power
  let powerFits := front.length == chars.length || isDigitRow Char.isDigit unsigned
  match splitAtChar '.' front with
  | [whole] => isDigitRow Char.isDigit whole && powerFits
  | [whole, part] => (!whole.isEmpty || !part.isEmpty) && powerFits
    && (whole.isEmpty || isDigitRow Char.isDigit whole)
    && (part.isEmpty || isDigitRow Char.isDigit part)
  | _ => false

/-- The token of a number, if the characters spell one. -/
def number? (chars : List Char) : Option LiteralToken :=
  let imaginary := chars.getLast? = some 'j' || chars.getLast? = some 'J'
  if imaginary && isFraction chars.dropLast then some (.number true)
  else
    let isBroken := ['.', 'e', 'E'].any chars.contains
    if isWholeNumber chars || (isBroken && isFraction chars) then some (.number false) else none

/-- The characters of a number at the head of a row: letters, digits, points, and a sign after an
exponent. -/
def numberChars (hex : Bool) (before : Option Char) : List Char → List Char
  | [] => []
  | c :: rest =>
    let afterPower := !hex && (before = some 'e' || before = some 'E')
    if c.isAlphanum || c = '_' || c = '.' || (afterPower && (c = '-' || c = '+')) then
      c :: numberChars hex (some c) rest
    else []

/-- Holds of the characters of names. -/
def isNameChar (c : Char) : Bool :=
  c == '_' || c.isAlphanum || (127 < c.toNat && isIdentifierChar c)

/-- What the letters before a quote ask for: a text as it stands, and bytes. -/
def quoteWishes? (word : String) : Option (Bool × Bool) :=
  let known := word.toLower
  if known = "" || known = "u" then some (false, false)
  else if known = "r" then some (true, false)
  else if known = "b" then some (false, true)
  else if known = "br" || known = "rb" then some (true, true)
  else none

/-- The next token of a row that starts with no blank, and what follows it. -/
def next? (chars : List Char) : Option (LiteralToken × List Char) :=
  let word := chars.takeWhile isNameChar
  let after := chars.drop word.length
  match chars with
  | [] => none
  | '.' :: '.' :: '.' :: rest => some (.name "...", rest)
  | c :: rest =>
    if c.isDigit || (c = '.' && (rest.head?.map Char.isDigit).getD false) then
      let hex := c == '0' && (rest.head? == some 'x' || rest.head? == some 'X')
      let digits := numberChars hex none chars
      (number? digits).map fun token => (token, chars.drop digits.length)
    else
      match quoteWishes? (String.ofList word), after with
      | some (raw, bytes), q :: inner =>
        if q = '\'' || q = '"' then
          let triple := inner.take 2 == [q, q]
          (afterQuote raw bytes q triple (if triple then inner.drop 2 else inner)).map fun rest =>
            (.quoted bytes, rest)
        else if word.isEmpty then some (.mark c, rest)
        else some (.name (String.ofList word), after)
      | _, _ => if word.isEmpty then some (.mark c, rest)
        else some (.name (String.ofList word), after)

/-- What follows blanks, comments and the ends of lines. The end of a line matters outside of
brackets only, which `inside` tells: no token may follow it once one has `begun`, and none may be
indented before. A backslash takes the end of a line away. `indented`, `comment` and `ended` tell
where in this the characters stand. -/
def afterGap (inside begun indented comment ended : Bool) : List Char → Option (List Char)
  | [] => some []
  | '\n' :: rest => afterGap inside begun false false (ended || (begun && !inside)) rest
  | c :: rest =>
    if comment then afterGap inside begun indented true ended rest
    else if c = '#' then afterGap inside begun indented true ended rest
    else if c = ' ' || c = '\t' then
      afterGap inside begun (!inside && !begun) false ended rest
    else if c = '\x0c' then afterGap inside begun false false ended rest
    else if c = '\\' then
      match rest with
      | '\n' :: next :: rest => afterGap inside begun indented false ended (next :: rest)
      | _ => none
    else if indented || ended then none
    else some (c :: rest)

/-- The most brackets that can be open at once. -/
def deepest : Nat := 200

/-- The number of brackets that are open after a token. -/
def depthAfter? (depth : Nat) : LiteralToken → Option Nat
  | .mark c =>
    if c = '(' || c = '[' || c = '\x7b' then
      if depth < deepest then some (depth + 1) else none
    else if c = ')' || c = ']' || c = '\x7d' then some (depth - 1)
    else some depth
  | _ => some depth

/-- The tokens of a row of characters; `depth` brackets are open before it, and `begun` tells that
a token stands there. Every token takes at least one character, so that `fuel` need not be larger
than the row. -/
def read (fuel depth : Nat) (begun : Bool) (chars : List Char) : Option (List LiteralToken) :=
  match fuel, afterGap (0 < depth) begun false false false chars with
  | _, none => none
  | _, some [] => some []
  | 0, _ => none
  | fuel + 1, some rest => do
    let (token, rest) ← next? rest
    return token :: (← read fuel (← depthAfter? depth token) true rest)

end LiteralToken

/-- What matters about a literal value: whether it is a number, and whether it can be looked up by
its content. -/
inductive LiteralKind where
  | number (imaginary : Bool)
  | signed (imaginary : Bool)
  | other (fixed : Bool)

namespace LiteralKind

/-- Holds of values that sets and tables can be asked for. -/
def isFixed : LiteralKind → Bool
  | .other fixed => fixed
  | _ => true

/-- A number after a sign. -/
def afterSign? : LiteralKind → Option LiteralKind
  | .number imaginary => some (.signed imaginary)
  | _ => none

/-- The kind of a real number and an imaginary one. -/
def joined? : LiteralKind → LiteralKind → Option LiteralKind
  | .number false, .number true | .signed false, .number true => some (.other true)
  | _, _ => none

private def isSign (token : LiteralToken) : Bool := token == .mark '-' || token == .mark '+'

mutual

/-- Reads a value without a sign. -/
def atom? (fuel : Nat) (tokens : List LiteralToken) :
    Option (LiteralKind × List LiteralToken) :=
  match fuel, tokens with
  | fuel + 1, token :: rest =>
    match token with
    | .number imaginary => some (.number imaginary, rest)
    | .quoted bytes =>
      let after := rest.dropWhile (· == .quoted bytes)
      if after.head? == some (.quoted !bytes) then none else some (.other true, after)
    | .name word =>
      if ["True", "False", "None", "..."].contains word then some (.other true, rest)
      else if normalForm word = "set" && rest.take 2 == [.mark '(', .mark ')'] then
        some (.other false, rest.drop 2)
      else none
    | .mark '(' => do
      let (kinds, trailing, rest) ← items? fuel (.mark ')') rest
      match kinds, trailing with
      | [kind], false => return (kind, rest)
      | _, _ => return (.other (kinds.all isFixed), rest)
    | .mark '\x7b' => (entries? fuel none rest).map fun rest => (.other false, rest)
    | .mark _ => none
  | _, _ => none

/-- Reads a value. -/
def value? (fuel : Nat) (tokens : List LiteralToken) :
    Option (LiteralKind × List LiteralToken) :=
  match fuel with
  | 0 => none
  | fuel + 1 => do
    let isSigned := (tokens.head?.map isSign).getD false
    let (kind, rest) ← atom? fuel (if isSigned then tokens.drop 1 else tokens)
    let first ← if isSigned then kind.afterSign? else some kind
    if (rest.head?.map isSign).getD false then
      let (second, rest) ← atom? fuel (rest.drop 1)
      return (← joined? first second, rest)
    else return (first, rest)

/-- Reads values up to a closing mark, and tells whether a comma follows the last one. -/
def items? (fuel : Nat) (closing : LiteralToken) (tokens : List LiteralToken) :
    Option (List LiteralKind × Bool × List LiteralToken) :=
  match fuel with
  | 0 => none
  | fuel + 1 =>
    if tokens.head? = some closing then some ([], true, tokens.drop 1)
    else do
      let (kind, rest) ← value? fuel tokens
      match rest with
      | .mark ',' :: rest =>
        let (kinds, trailing, rest) ← items? fuel closing rest
        return (kind :: kinds, trailing, rest)
      | token :: rest => if token = closing then return ([kind], false, rest) else none
      | [] => none

/-- Reads the rest of a set or a table. `paired` tells which of the two it is, once that is
known. -/
def entries? (fuel : Nat) (paired : Option Bool) (tokens : List LiteralToken) :
    Option (List LiteralToken) :=
  match fuel with
  | 0 => none
  | fuel + 1 =>
    if tokens.head? = some (.mark '\x7d') then some (tokens.drop 1)
    else do
      let (kind, rest) ← value? fuel tokens
      let isPair := rest.head? == some (.mark ':')
      let rest ← if isPair then (value? fuel (rest.drop 1)).map Prod.snd else some rest
      if !kind.isFixed || paired == some (!isPair) then none
      else match rest with
        | .mark ',' :: rest => entries? fuel (some isPair) rest
        | .mark '\x7d' :: rest => some rest
        | _ => none

end

end LiteralKind

/-- The mark at the end of all tokens. No token of a text is like it, because the end of a line is
a gap. -/
def LiteralToken.last : LiteralToken := .mark '\n'

/-- Holds of texts that spell a literal value, or several with commas between them. A value is read
in at most four steps for each of its tokens. -/
def isLiteral (text : List Char) : Bool :=
  let chars := unifyLineEnds text
  match if chars.contains '\x00' then none else LiteralToken.read chars.length 0 false chars with
  | none => false
  | some tokens =>
    match LiteralKind.items? (4 * tokens.length + 8) .last (tokens ++ [.last]) with
    | some (kinds, _, []) => !kinds.isEmpty
    | _ => false

end DataLayer.Markup
