/-! Rows of entries that keep the order in which their keys were first put. -/

namespace DataLayer.Entries

variable {κ α : Type}

/-- Puts a value under a key: in place of the value already there, or at the end. -/
def put [BEq κ] (key : κ) (value : α) : List (κ × α) → List (κ × α)
  | [] => [(key, value)]
  | entry :: rest =>
    if entry.1 == key then (entry.1, value) :: rest else entry :: put key value rest

/-- Puts a row of entries one after the other. -/
def putAll [BEq κ] (entries additions : List (κ × α)) : List (κ × α) :=
  additions.foldl (fun entries addition => put addition.1 addition.2 entries) entries

/-- The value under a key. -/
def get? [BEq κ] (key : κ) (entries : List (κ × α)) : Option α :=
  (entries.find? fun entry => entry.1 == key).map Prod.snd

/-- The entries without those of a key. -/
def erase [BEq κ] (key : κ) (entries : List (κ × α)) : List (κ × α) :=
  entries.filter fun entry => !(entry.1 == key)

/-- Holds when there is a value under a key. -/
def contains [BEq κ] (key : κ) (entries : List (κ × α)) : Bool :=
  entries.any fun entry => entry.1 == key

/-- The keys in order. -/
def keys (entries : List (κ × α)) : List κ := entries.map Prod.fst

end DataLayer.Entries
