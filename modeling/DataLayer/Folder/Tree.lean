import DataLayer.Entries
import DataLayer.Fault.Misuse
import DataLayer.Folder.Path

/-! A tree of folders and files, seen from the folder in which one stands.

A place is named by the parts that lead to it. Steps up from the top of the tree lead to places
beside it, whose names start with such steps; these folders, and the top of the file system, are
always there. -/

namespace DataLayer

variable {α : Type}

/-- What stands at a place. -/
inductive Node (α : Type) where
  | folder
  | file (content : α)

/-- A place in the tree, by the parts that lead to it. -/
abbrev Place := List String

/-- A tree: what stands at which place. -/
structure Tree (α : Type) where
  nodes : List (Place × Node α) := []

namespace Tree

/-- Holds of the places that are folders without being made. -/
def isGiven (place : Place) : Bool :=
  place.all (· == "..") || place == ["/"]

/-- What stands at a place. -/
def at? (t : Tree α) (place : Place) : Option (Node α) :=
  match Entries.get? place t.nodes with
  | some node => some node
  | none => if isGiven place then some .folder else none

/-- Holds of places where a folder stands. -/
def hasFolder (t : Tree α) (place : Place) : Bool :=
  match t.at? place with
  | some .folder => true
  | _ => false

/-- The place one part further. -/
def step (place : Place) (part : String) : Place :=
  if part = ".." then
    match place.getLast? with
    | none => [".."]
    | some ".." => place ++ [".."]
    | some "/" => place
    | some _ => place.dropLast
  else place ++ [part]

/-- The place where a path starts. -/
def origin (p : Path) : Place := if p.root = "" then [] else ["/"]

/-- The longest name that a part may have, in bytes. -/
def longestName : Nat := 255

/-- The longest text that a path may have, in bytes. -/
def longestPath : Nat := 4095

/-- The most folders that are made for one path. -/
def deepestPath : Nat := 982

/-- Follows parts one by one from a place. All folders on the way have to be there, the last part
may lead to nothing. -/
def followEach (t : Tree α) (place : Place) : List String → Option Place
  | [] => some place
  | part :: rest => if t.hasFolder place then t.followEach (step place part) rest else none

/-- Follows parts from a place. Where a folder stands, folders stand on the whole way to it, so that
without steps up the way need not be looked at. -/
def follow (t : Tree α) (place : Place) (parts : List String) : Option Place :=
  if !parts.contains ".." && t.hasFolder (place ++ parts.dropLast) then some (place ++ parts)
  else t.followEach place parts

/-- The place that a path leads to. -/
def locate (t : Tree α) (p : Path) : Option Place := t.follow (origin p) p.parts

/-- What a path leads to. -/
def find? (t : Tree α) (p : Path) : Option (Node α) := (t.locate p).bind t.at?

/-- Holds of a part whose name is too long. -/
def isLongName (part : String) : Bool := longestName < part.utf8ByteSize

/-- Holds when the way from a place, as far as it can be followed, comes to a name that is too
long. -/
def meetsLongName (t : Tree α) (place : Place) : List String → Bool
  | [] => false
  | part :: rest =>
    t.hasFolder place && (isLongName part || t.meetsLongName (step place part) rest)

/-- What a path leads to, unless the path or a name on the way is too long. No path with a null
character leads anywhere. -/
def look (t : Tree α) (p : Path) : Except Misuse (Option (Node α)) :=
  if p.hasNull then .ok none
  else if longestPath < p.text.utf8ByteSize
      || (p.parts.any isLongName && t.meetsLongName (origin p) p.parts) then
    .error (.nameTooLong p.text)
  else .ok (t.find? p)

/-- Holds of paths that lead to a file. -/
def isFile (t : Tree α) (p : Path) : Except Misuse Bool := do
  match ← t.look p with
  | some (.file _) => return true
  | _ => return false

/-- Puts something at a place. -/
def put (t : Tree α) (place : Place) (node : Node α) : Tree α :=
  { nodes := Entries.put place node t.nodes }

/-- Takes away what stands at a place. -/
def remove (t : Tree α) (place : Place) : Tree α := { nodes := Entries.erase place t.nodes }

/-- The places on the way along parts from a place. -/
def placesAlong (place : Place) : List String → List Place
  | [] => []
  | part :: rest => (place ++ [part]) :: placesAlong (place ++ [part]) rest

/-- Makes the folders that parts lead through from a place, none of which is there yet. -/
def makeMissing (t : Tree α) (text : String) (place : Place) (parts : List String) :
    Except Misuse (Tree α) :=
  if deepestPath < parts.length then .error .tooDeep
  else if parts.any isLongName then .error (.nameTooLong text)
  else .ok { nodes := t.nodes ++ (placesAlong place parts).map fun place => (place, .folder) }

/-- Makes the folders that parts lead through from a place, as far as they are missing. -/
def makeFrom (t : Tree α) (text : String) (place : Place) :
    List String → Except Misuse (Tree α)
  | [] => .ok t
  | part :: rest =>
    let next := step place part
    if isLongName part then .error (.nameTooLong text)
    else match t.at? next with
      | some .folder => t.makeFrom text next rest
      | some (.file _) =>
        if rest.isEmpty then .error (.fileExists text) else .error (.notADirectory text)
      | none =>
        if (part :: rest).contains ".." then (t.put next .folder).makeFrom text next rest
        else t.makeMissing text place (part :: rest)

/-- Makes the folder that a path leads to, and those on the way. -/
def makeFolder (t : Tree α) (p : Path) : Except Misuse (Tree α) :=
  if p.hasNull then .error (.unreadable "embedded null byte")
  else if longestPath < p.text.utf8ByteSize then .error (.nameTooLong p.text)
  else if !p.parts.contains ".." && t.hasFolder (origin p ++ p.parts) then .ok t
  else t.makeFrom p.text (origin p) p.parts

/-- Puts something at a place below folders that are made when they are missing. -/
def plant (t : Tree α) (p : Path) (node : Node α) : Tree α :=
  match t.makeFrom p.text (origin p) p.parts.dropLast with
  | .ok t => t.put (p.parts.foldl step (origin p)) node
  | .error _ => t

/-- The names in a folder, in the order in which they were put there. -/
def namesIn (t : Tree α) (place : Place) : List String :=
  t.nodes.filterMap fun entry =>
    match entry.1.getLast? with
    | some name => if entry.1.dropLast == place then some name else none
    | none => none

/-- The names in the folder that a path leads to; none where there is no folder. -/
def listing (t : Tree α) (p : Path) : Except Misuse (List String) := do
  match ← t.look p with
  | some .folder => return ((t.locate p).map t.namesIn).getD []
  | _ => return []

/-- The files below the place where one stands, by their parts. -/
def files (t : Tree α) : List (Place × α) :=
  t.nodes.filterMap fun entry =>
    match entry.2 with
    | .file content => if entry.1.head? == some ".." || entry.1.head? == some "/" then none
      else some (entry.1, content)
    | .folder => none

end Tree
end DataLayer
