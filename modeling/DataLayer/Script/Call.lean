import DataLayer.Fault.Misuse
import DataLayer.Entries

/-! Calls by name, as scripts make them, and how their arguments find their parameters. -/

namespace DataLayer.Script

open DataLayer.Text

/-- A call: a name, arguments by position and arguments by name. -/
structure Call where
  name : String
  args : List Value := []
  named : List (String × Value) := []
deriving Inhabited

/-- A parameter of an operation. -/
structure Parameter where
  name : String
  required : Bool := true
  /-- Holds of a parameter that is given by name only. -/
  byName : Bool := false

/-- What an operation takes: its full name, its parameters, and whether it takes further arguments
under any name. -/
structure Signature where
  owner : String
  parameters : List Parameter := []
  open? : Bool := false

namespace Signature

/-- A parameter that has to be given. -/
def required (name : String) : Parameter := { name }

/-- A parameter that may be left out. -/
def optional (name : String) : Parameter := { name, required := false }

/-- A parameter that may be left out and is given by name only. -/
def keyword (name : String) : Parameter := { name, required := false, byName := true }

private def positional (s : Signature) : List Parameter :=
  s.parameters.filter fun parameter => !parameter.byName

private def countWord (count : Nat) : String := if count = 1 then "" else "s"

/-- Too many arguments by position; the receiver of the call counts as one. -/
private def tooMany (s : Signature) (given byName : Nat) : Misuse :=
  let most := s.positional.length + 1
  let least := (s.positional.filter Parameter.required).length + 1
  let takes :=
    if least = most then decimal most ++ " positional argument" ++ countWord most
    else "from " ++ decimal least ++ " to " ++ decimal most ++ " positional arguments"
  let gave :=
    if byName = 0 then decimal given ++ (if given = 1 then " was" else " were")
    else decimal given ++ " positional argument" ++ countWord given ++ " (and " ++ decimal byName
      ++ " keyword-only argument" ++ countWord byName ++ ") were"
  .unsuitable (s.owner ++ "() takes " ++ takes ++ " but " ++ gave ++ " given")

private def nameList : List String → String
  | [] => ""
  | [name] => "'" ++ name ++ "'"
  | [first, second] => "'" ++ first ++ "' and '" ++ second ++ "'"
  | names => ", ".intercalate ((names.dropLast).map fun name => "'" ++ name ++ "'")
      ++ ", and '" ++ names.getLast?.getD "" ++ "'"

private def missing (s : Signature) (names : List String) : Misuse :=
  .unsuitable (s.owner ++ "() missing " ++ decimal names.length ++ " required positional argument"
    ++ countWord names.length ++ ": " ++ nameList names)

/-- The arguments by parameter, and those under other names. -/
structure Bound where
  values : List (String × Value)
  others : List (String × Value)

/-- The name of the receiver of a call, which is given already. -/
def receiver : String := "self"

/-- Takes in the arguments by name one after the other. -/
def takeNamed (s : Signature) (bound : Bound) :
    List (String × Value) → Except Misuse Bound
  | [] => .ok bound
  | (name, value) :: rest =>
    if name == receiver || s.parameters.any fun parameter => parameter.name == name then
      if name == receiver || Entries.contains name bound.values then
        .error (.unsuitable (s.owner ++ "() got multiple values for argument '" ++ name ++ "'"))
      else takeNamed s { bound with values := bound.values ++ [(name, value)] } rest
    else if s.open? then takeNamed s { bound with others := bound.others ++ [(name, value)] } rest
    else .error (.unsuitable
      (s.owner ++ "() got an unexpected keyword argument '" ++ name ++ "'"))

/-- Brings the arguments of a call to the parameters. Arguments by name are looked at before the
number of the others is. -/
def bind (s : Signature) (args : List Value) (named : List (String × Value)) :
    Except Misuse Bound := do
  let first := (s.positional.map Parameter.name).zip args
  let bound ← takeNamed s { values := first, others := [] } named
  if s.positional.length < args.length then
    let byName := s.parameters.filter fun parameter =>
      parameter.byName && Entries.contains parameter.name bound.values
    .error (s.tooMany (args.length + 1) byName.length)
  else
    let absent := s.parameters.filter fun parameter =>
      parameter.required && !Entries.contains parameter.name bound.values
    if absent.isEmpty then .ok bound else .error (s.missing (absent.map Parameter.name))

/-- The argument of a parameter, if it was given. -/
def Bound.get? (bound : Bound) (name : String) : Option Value := Entries.get? name bound.values

/-- The argument of a parameter, or a default. -/
def Bound.getD (bound : Bound) (name : String) (default : Value) : Value :=
  (bound.get? name).getD default

end Signature

/-- The arguments of a call brought to the parameters that it takes. -/
def Call.bind (call : Call) (owner : String) (parameters : List Parameter) :
    Except Misuse Signature.Bound :=
  Signature.bind { owner, parameters } call.args call.named

/-- Checks that a call has no arguments. -/
def Call.bare (call : Call) (owner : String) : Except Misuse Unit :=
  (call.bind owner []).map fun _ => ()

end DataLayer.Script
