import DataLayer.Script.Call
import DataLayer.Text.Case
import DataLayer.Text.Line
import DataLayer.Value.Same

/-! What plain values can be asked for by name once a step has led to them: texts, numbers, and
lists. A list is a fresh one each time, so what a call does to it shows in no later step. -/

namespace DataLayer.Script

open DataLayer.Text

/-- What a step leads to: the description of a table, one of its columns, or something plain. -/
inductive Handle where
  | draft
  | column (position : Nat)
  | plain (value : Value)
  | list (items : List Handle)
deriving Inhabited

namespace Handle

/-- The handle of a value; the items of a list can be asked for one by one. -/
def ofValue : Value → Handle
  | .list items => .list (items.map Handle.plain)
  | value => .plain value

/-- The handle of a text. -/
def text (word : String) : Handle := .plain (.text word)

/-- The handle of texts. -/
def texts (words : List String) : Handle := .list (words.map Handle.text)

/-- The handle of an answer that says nothing. -/
def nothing : Handle := .plain .null

/-- The name of the kind of what a step led to. -/
def kindName : Handle → String
  | .draft => "Blueprint"
  | .column _ => "ColumnDefinition"
  | .plain value => value.kindName
  | .list _ => "list"

/-- Holds when two handles show the same. -/
def same : Handle → Handle → Bool
  | .draft, .draft => true
  | .column a, .column b => a == b
  | .plain a, .plain b => a == b
  | _, _ => false

end Handle

namespace Member

/-- The complaint that something which is no operation is called. -/
def notCallable (kind : String) : Misuse := .unsuitable ("'" ++ kind ++ "' object is not callable")

/-- The complaint about a value in the place of a number. -/
def noInteger (value : Value) : Misuse :=
  .unsuitable ("'" ++ value.kindName ++ "' object cannot be interpreted as an integer")

private def unnamed (owner : String) (call : Call) : Except Misuse Unit :=
  if call.named.isEmpty then .ok ()
  else .error (.unsuitable (owner ++ "() takes no keyword arguments"))

/-- Checks that a call has no arguments. -/
def bare (kind : String) (call : Call) : Except Misuse Unit := do
  let owner := kind ++ "." ++ call.name
  unnamed owner call
  if call.args.isEmpty then .ok ()
  else .error (.unsuitable (owner ++ "() takes no arguments (" ++ decimal call.args.length
    ++ " given)"))

/-- The only argument of a call. -/
def single (kind : String) (call : Call) : Except Misuse Value := do
  let owner := kind ++ "." ++ call.name
  unnamed owner call
  match call.args with
  | [value] => .ok value
  | args => .error (.unsuitable (owner ++ "() takes exactly one argument (" ++ decimal args.length
      ++ " given)"))

/-- The arguments of a call that has at least and at most so many. -/
def between (kind : String) (least most : Nat) (call : Call) : Except Misuse (List Value) := do
  unnamed (kind ++ "." ++ call.name) call
  let count := call.args.length
  let complaint (bound : String) (limit : Nat) : Misuse :=
    .unsuitable (call.name ++ " expected " ++ bound ++ decimal limit ++ " argument"
      ++ (if limit = 1 then "" else "s") ++ ", got " ++ decimal count)
  if count < least then
    .error (complaint (if least = most then "" else "at least ") least)
  else if most < count then
    .error (complaint (if least = most then "" else "at most ") most)
  else .ok call.args

/-- The whole number that a value is. -/
def integer (value : Value) : Except Misuse Int :=
  match value with
  | .int n => .ok n
  | .bool truth => .ok (if truth then 1 else 0)
  | other => .error (noInteger other)

/-- The item at a position, counted from the end when it is negative. -/
def taken {α : Type} (items : List α) (position : Int) : Except Misuse α :=
  let index := if position < 0 then position + items.length else position
  if items.isEmpty then .error (.outOfRange "pop from empty list")
  else match if index < 0 then none else items[index.toNat]? with
    | some item => .ok item
    | none => .error (.outOfRange "pop index out of range")

/-- What a list answers to a call. -/
def ofList (items : List Handle) (call : Call) : Except Misuse Handle := do
  let kind := "list"
  match call.name with
  | "pop" =>
    match ← between kind 0 1 call with
    | position :: _ => taken items (← integer position)
    | [] => taken items (-1)
  | "reverse" => bare kind call; return .nothing
  | "clear" => bare kind call; return .nothing
  | "copy" => bare kind call; return .list items
  | "append" => let _ ← single kind call; return .nothing
  | "extend" => let _ ← (← single kind call).elements; return .nothing
  | "insert" =>
    match ← between kind 2 2 call with
    | position :: _ => let _ ← integer position; return .nothing
    | [] => return .nothing
  | "count" =>
    let wanted := Handle.ofValue (← single kind call)
    return .plain (.int (items.filter wanted.same).length)
  | "remove" =>
    let wanted := Handle.ofValue (← single kind call)
    if items.any wanted.same then return .nothing
    else .error (.unreadable "list.remove(x): x not in list")
  | "index" =>
    match ← between kind 1 1 call with
    | value :: _ =>
      match items.findIdx? (Handle.ofValue value).same with
      | some position => return .plain (.int position)
      | none => .error (.unreadable (value.quoted ++ " is not in list"))
    | [] => return .nothing
  | "sort" =>
    if !call.args.isEmpty then .error (.unsuitable "sort() takes no positional arguments")
    else match items with
      | .column _ :: .column _ :: _ => .error (.unsuitable ("'<' not supported between instances "
          ++ "of 'ColumnDefinition' and 'ColumnDefinition'"))
      | _ => return .nothing
  | name => .error (.noSuchMember kind name)

/-- What a text is asked to be stripped of. -/
private def stripped (call : Call) : Except Misuse (Char → Bool) := do
  match ← between "str" 0 1 call with
  | [] => return isBlank
  | .null :: _ => return isBlank
  | value :: _ =>
    match value.text? with
    | some chars => return chars.toList.contains
    | none => .error (.unsuitable (call.name ++ " arg must be None or str"))

/-- A text as the argument of a call, with the complaint about other values. -/
private def wordOf (complaint : String) (value : Value) : Except Misuse String :=
  match value.text? with
  | some word => .ok word
  | none => .error (.unsuitable (complaint ++ value.kindName))

/-- The pieces of a text between occurrences of a part that is not empty. -/
private def pieces (part word : String) : List String := word.splitOn part

/-- What a text answers to a call. -/
def ofText (kind word : String) (call : Call) : Except Misuse Handle := do
  let chars := word.toList
  match call.name with
  | "upper" => bare kind call; return .text (upper word)
  | "lower" => bare kind call; return .text (lower word)
  | "strip" => return .text (String.ofList (trimChars (← stripped call) chars))
  | "lstrip" => return .text (String.ofList (chars.dropWhile (← stripped call)))
  | "rstrip" =>
    return .text (String.ofList (chars.reverse.dropWhile (← stripped call)).reverse)
  | "split" =>
    match call.args with
    | [] => return .texts ((words chars).map String.ofList)
    | .null :: _ => return .texts ((words chars).map String.ofList)
    | value :: _ =>
      match value.text? with
      | none => .error (.unsuitable ("must be str or None, not " ++ value.kindName))
      | some "" => .error (.unreadable "empty separator")
      | some part => return .texts (pieces part word)
  | "splitlines" => return .texts (lines word)
  | "startswith" =>
    match call.args with
    | [] => .error (.unsuitable "startswith() takes at least 1 argument (0 given)")
    | value :: _ =>
      let part ← wordOf "startswith first arg must be str or a tuple of str, not " value
      return .plain (.bool (part.toList.isPrefixOf chars))
  | "endswith" =>
    match call.args with
    | [] => .error (.unsuitable "endswith() takes at least 1 argument (0 given)")
    | value :: _ =>
      let part ← wordOf "endswith first arg must be str or a tuple of str, not " value
      return .plain (.bool (part.toList.isSuffixOf chars))
  | "replace" =>
    match ← between kind 2 3 call with
    | first :: second :: _ =>
      let part ← wordOf "replace() argument 1 must be str, not " first
      let other ← wordOf "replace() argument 2 must be str, not " second
      return .text (if part = "" then
          String.join (other :: chars.map fun c => String.ofList [c] ++ other)
        else other.intercalate (pieces part word))
    | _ => return .nothing
  | "count" =>
    match call.args with
    | [] => .error (.unsuitable "count() takes at least 1 argument (0 given)")
    | value :: _ =>
      let part ← wordOf "must be str, not " value
      return .plain (.int (if part = "" then chars.length + 1
        else (pieces part word).length - 1))
  | "encode" => return .plain (.bytes word.toUTF8.toList)
  | name => .error (.noSuchMember kind name)

/-- The number of bits that a number takes. -/
def bitLength (n : Int) : Nat := if n = 0 then 0 else Nat.log2 n.natAbs + 1

/-- What a whole number answers to a call. -/
def ofInteger (kind : String) (n : Int) (call : Call) : Except Misuse Handle := do
  match call.name with
  | "bit_length" => bare kind call; return .plain (.int (bitLength n))
  | "conjugate" => bare kind call; return .plain (.int n)
  | "real" => .error (notCallable "int")
  | "imag" => .error (notCallable "int")
  | "numerator" => .error (notCallable "int")
  | "denominator" => .error (notCallable "int")
  | name => .error (.noSuchMember kind name)

/-- What a value answers to a call. -/
def ofValue (value : Value) (call : Call) : Except Misuse Handle :=
  match value.text? with
  | some word => ofText value.kindName word call
  | none =>
    match value with
    | .int n => ofInteger "int" n call
    | .bool truth => ofInteger "bool" (if truth then 1 else 0) call
    | .list items => ofList (items.map Handle.plain) call
    | other => .error (.noSuchMember other.kindName call.name)

end Member
end DataLayer.Script
