/-! The arguments of a command: options, with or without a value, and what stands between them.

An option has a long name after two dashes and a short one after one. A value follows its option,
or is joined to it: after an equals sign to a long name, directly to a short one. Short names can
share a dash. Two dashes alone end the options. -/

namespace DataLayer.Command

/-- An option that is understood. -/
structure OptionKind where
  long : String
  short : Option Char := none
  takesValue : Bool := true
deriving DecidableEq

/-- An option as it was given. -/
structure Given where
  name : String
  value : String := ""
deriving DecidableEq

/-- Arguments taken apart. -/
structure Arguments where
  options : List Given := []
  operands : List String := []

namespace Arguments

/-- The last value of an option, if it was given. -/
def last? (arguments : Arguments) (name : String) : Option String :=
  (arguments.options.reverse.find? fun option => option.name == name).map Given.value

/-- Adds options in front. -/
def withOptions (options : List Given) (arguments : Arguments) : Arguments :=
  { arguments with options := options ++ arguments.options }

/-- Adds an operand in front. -/
def withOperand (operand : String) (arguments : Arguments) : Arguments :=
  { arguments with operands := operand :: arguments.operands }

end Arguments

/-- What an argument with a dash says: options, and the one that still waits for its value. -/
structure Reading where
  options : List Given := []
  waiting : Option String := none

/-- Holds of arguments that are options: a dash and something after it. -/
def isOption (argument : List Char) : Bool :=
  match argument with
  | '-' :: _ :: _ => true
  | _ => false

/-- Reads short names that share a dash. What follows a name that takes a value is the value. -/
def readShort (kinds : List OptionKind) : List Char → Option Reading
  | [] => some {}
  | c :: rest =>
    match kinds.find? fun kind => kind.short == some c with
    | none => none
    | some kind =>
      if kind.takesValue then
        if rest.isEmpty then some { waiting := some kind.long }
        else some { options := [{ name := kind.long, value := String.ofList rest }] }
      else (readShort kinds rest).map fun reading =>
        { reading with options := { name := kind.long } :: reading.options }

/-- Reads an argument with a dash. -/
def readOption (kinds : List OptionKind) (argument : List Char) : Option Reading :=
  let name := argument.takeWhile (· != '=')
  let joined := argument.drop name.length
  match kinds.find? fun kind => ("--" ++ kind.long).toList == name with
  | some kind =>
    match kind.takesValue, joined with
    | true, [] => some { waiting := some kind.long }
    | true, _ :: value => some { options := [{ name := kind.long, value := String.ofList value }] }
    | false, [] => some { options := [{ name := kind.long }] }
    | false, _ :: _ => none
  | none => if "--".toList.isPrefixOf argument then none else readShort kinds (argument.drop 1)

/-- Takes arguments apart. When options end at the first operand, it and all that follows are
operands. -/
def takeApart (kinds : List OptionKind) (mixed : Bool) : List String → Option Arguments
  | [] => some {}
  | [argument] =>
    if argument = "--" then some {}
    else if isOption argument.toList then
      match readOption kinds argument.toList with
      | some { options, waiting := none } => some { options }
      | _ => none
    else some { operands := [argument] }
  | argument :: next :: rest =>
    if argument = "--" then some { operands := next :: rest }
    else if isOption argument.toList then
      match readOption kinds argument.toList with
      | none => none
      | some { options, waiting := none } =>
        (takeApart kinds mixed (next :: rest)).map (Arguments.withOptions options)
      | some { options, waiting := some name } =>
        (takeApart kinds mixed rest).map
          (Arguments.withOptions (options ++ [{ name, value := next }]))
    else if mixed then
      (takeApart kinds mixed (next :: rest)).map (Arguments.withOperand argument)
    else some { operands := argument :: next :: rest }

end DataLayer.Command
