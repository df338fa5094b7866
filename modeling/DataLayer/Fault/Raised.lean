import DataLayer.Fault.Basic

/-! Faults that callers raise by name: reports of this library, and the general kinds that every
program knows. Main statement of the rules here: a name leads to a fault of that kind when the kind
can be made of a message alone, and to a misuse otherwise. -/

namespace DataLayer

namespace GeneralKind

/-- The kinds that no handler of ordinary faults sees. -/
def escaping : List String := ["BaseException", "GeneratorExit", "KeyboardInterrupt", "SystemExit"]

/-- The kinds that can be made of a message alone. -/
def ordinary : List String :=
  ["ArithmeticError", "AssertionError", "AttributeError", "BlockingIOError", "BrokenPipeError",
    "BufferError", "BytesWarning", "ChildProcessError", "ConnectionAbortedError",
    "ConnectionError", "ConnectionRefusedError", "ConnectionResetError", "DeprecationWarning",
    "EOFError", "EncodingWarning", "Exception", "FileExistsError", "FileNotFoundError",
    "FloatingPointError", "FutureWarning", "ImportError", "ImportWarning", "IndentationError",
    "IndexError", "InterruptedError", "IsADirectoryError", "KeyError", "LookupError",
    "MemoryError", "ModuleNotFoundError", "NameError", "NotADirectoryError",
    "NotImplementedError", "OSError", "OverflowError", "PendingDeprecationWarning",
    "PermissionError", "ProcessLookupError", "RecursionError", "ReferenceError",
    "ResourceWarning", "RuntimeError", "RuntimeWarning", "StopAsyncIteration", "StopIteration",
    "SyntaxError", "SyntaxWarning", "SystemError", "TabError", "TimeoutError", "TypeError",
    "UnboundLocalError", "UnicodeError", "UnicodeWarning", "UserWarning", "ValueError", "Warning",
    "ZeroDivisionError"]

/-- Second names of kinds. -/
def aliases : List (String × String) := [("EnvironmentError", "OSError"), ("IOError", "OSError")]

/-- The kinds that need more than a message, with the complaint that they have about it alone. -/
def demanding : List (String × String) :=
  let few (count : String) : String := "function takes exactly " ++ count ++ " arguments (1 given)"
  let members := "BaseExceptionGroup.__new__() takes exactly 2 arguments (1 given)"
  [("BaseExceptionGroup", members), ("ExceptionGroup", members),
    ("UnicodeDecodeError", few "5"), ("UnicodeEncodeError", few "5"),
    ("UnicodeTranslateError", few "4")]

/-- The kinds that take what they are about as a named argument, with the names for it. -/
def openKinds : List (String × List String) :=
  [("AttributeError", ["name", "obj"]), ("ImportError", ["name", "path"]),
    ("ModuleNotFoundError", ["name", "path"]), ("NameError", ["name"]),
    ("UnboundLocalError", ["name"])]

/-- The kind of a name, as far as a message is all that it needs. -/
def find (name : String) : Except Misuse String :=
  let kind := (Entries.get? name aliases).getD name
  match Entries.get? kind demanding with
  | some complaint => .error (.unsuitable complaint)
  | none =>
    if (ordinary ++ escaping).contains kind then .ok kind
    else .error (.noSuchSetting "builtins" name)

/-- Holds when a kind can be made with named arguments of these names. -/
def accepts (kind : String) (names : List String) : Bool :=
  let known := (Entries.get? kind openKinds).getD []
  names.all known.contains

end GeneralKind

namespace Fault

/-- The fault that is raised under a name: a report of that kind, or one of the general kinds. -/
def raise (name : String) (message : Value) : Fault :=
  match ReportKind.ofName? name with
  | some kind => .report { kind, message }
  | none =>
    match GeneralKind.find name with
    | .ok kind => .raised kind message
    | .error complaint => .misuse complaint

/-- Holds of the faults that no handler of ordinary faults sees. -/
def escapes : Fault → Bool
  | .raised name _ => GeneralKind.escaping.contains name
  | _ => false

end Fault
end DataLayer
