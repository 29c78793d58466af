import ImageFlow.Document.Value

/-!
# Tables of TOML

A document of TOML builds its tables piece by piece: a header opens a table, and an assignment below
it may go through the keys of further tables. Which table may still be extended depends on how it
came to be. A table that a header opened is not opened again and not reached through an assignment;
one that only stands on the way to another can still be opened; one that assignments made can only
be extended by assignments.
-/

namespace ImageFlow.Toml

open Document

/-- How a table came to be. -/
inductive Origin
  /-- Opened by a header. -/
  | header
  /-- On the way to a table that a header opened. -/
  | implied
  /-- On the way of an assignment. -/
  | dotted
  deriving DecidableEq

/-- What a key stands for. -/
inductive Item
  | value (value : Value)
  | table (origin : Origin) (entries : List (String × Item))
  /-- A list of tables, the latest first. -/
  | tables (elements : List (List (String × Item)))

/-- The entries of a table, by key. -/
abbrev Entries := List (String × Item)

/-- Sets a key: in its old place if it is there, at the end otherwise. -/
def Entries.put (entries : Entries) (key : String) (item : Item) : Entries :=
  if entries.any (·.1 == key) then
    entries.map fun entry ↦ if entry.1 == key then (key, item) else entry
  else
    entries ++ [(key, item)]

/-- Changes the table at the end of a path, making tables on the way. The tables on the way of an
assignment must not have been opened by a header. In a list of tables the latest is meant. -/
def descend (assignment : Bool) (change : Origin → Entries → Option Entries) :
    List String → Origin → Entries → Option Entries
  | [], origin, entries => change origin entries
  | key :: path, _, entries => do
    match entries.lookup key with
    | none =>
      let origin := if assignment then Origin.dotted else .implied
      return entries.put key (.table origin (← descend assignment change path origin []))
    | some (.value _) => none
    | some (.table origin inner) =>
      if assignment && origin == .header then
        none
      else
        return entries.put key (.table origin (← descend assignment change path origin inner))
    | some (.tables []) => none
    | some (.tables (latest :: others)) =>
      return entries.put key (.tables ((← descend assignment change path .header latest) :: others))

/-- Assigns a value to the last key of a path. A path of several keys must end in a table made by
assignments, a single key in one that was not. -/
def assign (path : List String) (key : String) (value : Value) (origin : Origin)
    (entries : Entries) : Option Entries :=
  descend true (fun origin inner ↦
      if (origin == .dotted) == path.isEmpty || (inner.lookup key).isSome then none
      else some (inner.put key (.value value)))
    path origin entries

def openTable (path : List String) (key : String) (root : Entries) : Option Entries :=
  descend false (fun _ entries ↦
      match entries.lookup key with
      | none => some (entries.put key (.table .header []))
      | some (.table .implied inner) => some (entries.put key (.table .header inner))
      | some _ => none)
    path .header root

/-- Begins another table of a list of tables. -/
def openElement (path : List String) (key : String) (root : Entries) : Option Entries :=
  descend false (fun _ entries ↦
      match entries.lookup key with
      | none => some (entries.put key (.tables [[]]))
      | some (.tables elements) => some (entries.put key (.tables ([] :: elements)))
      | some _ => none)
    path .header root

/-- Assigns a value below the table that was opened last. -/
def assignBelow (table : List String) (path : List String) (key : String) (value : Value)
    (root : Entries) : Option Entries :=
  descend false (assign path key value) table .header root

mutual

def Item.toValue : Item → Value
  | .value value => value
  | .table _ entries => .record (entriesToFields entries)
  | .tables elements => .list (elementsToValues elements).reverse

def entriesToFields : List (String × Item) → List (String × Value)
  | [] => []
  | (key, item) :: rest => (key, item.toValue) :: entriesToFields rest

def elementsToValues : List (List (String × Item)) → List Value
  | [] => []
  | entries :: rest => .record (entriesToFields entries) :: elementsToValues rest

end

end ImageFlow.Toml
