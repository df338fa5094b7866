import DataLayer.Text.Blank

/-! Paths: parts between slashes. Empty parts and steps in place are left out; a step up is kept,
because what it leads to depends on the tree. -/

namespace DataLayer

open DataLayer.Text

/-- A path: `/` or `//` when it starts at the top of the file system, and its parts. -/
structure Path where
  root : String := ""
  parts : List String := []
deriving DecidableEq, Repr

namespace Path

private def partsOf (chars : List Char) : List String :=
  ((splitAtChar '/' chars).map String.ofList).filter fun part => part != "" && part != "."

/-- Reads a path. Two leading slashes are not the same as one, but three are. -/
def ofText (text : String) : Path :=
  let chars := text.toList
  let root := match chars.takeWhile (· == '/') with
    | [] => ""
    | ['/', '/'] => "//"
    | _ => "/"
  { root, parts := partsOf chars }

/-- The text of a path. The path without parts is the place where one stands. -/
def text (p : Path) : String :=
  if p.root = "" && p.parts.isEmpty then "." else p.root ++ "/".intercalate p.parts

/-- Holds of a path with a null character, which leads nowhere. -/
def hasNull (p : Path) : Bool := p.parts.any fun part => part.toList.contains '\x00'

/-- The last part of a path. -/
def name (p : Path) : String := p.parts.getLast?.getD ""

/-- A path followed from the end of another one. -/
def join (p q : Path) : Path :=
  if q.root = "" then { p with parts := p.parts ++ q.parts } else q

/-- A name in the folder that a path leads to. -/
def child (p : Path) (name : String) : Path := p.join (ofText name)

/-- The position after the last point in a name, unless the point stands at either end. -/
private def lastPoint? (chars : List Char) : Option Nat :=
  let before := (chars.reverse.dropWhile (· != '.')).length
  if 1 < before && before < chars.length then some before else none

/-- The last part of a path without its ending. -/
def stem (p : Path) : String :=
  let chars := p.name.toList
  match lastPoint? chars with
  | some before => String.ofList (chars.take (before - 1))
  | none => p.name

/-- The last part of a name from its last point on. -/
def ending (name : String) : String :=
  let chars := name.toList
  match lastPoint? chars with
  | some before => String.ofList (chars.drop (before - 1))
  | none => ""

end Path
end DataLayer
