/-!
# Ordered lists

Sets and maps as lists in strictly increasing order. Where an order can be seen in a result it is
the order of the list, so a set or map needs no separate enumeration.
-/

namespace ImageFlow.Ordered

variable {α κ ν : Type} [Ord α] [Ord κ]

/-! ## Sets -/

/-- Adds an element at its place; one that is already there stays. -/
def insert (x : α) : List α → List α
  | [] => [x]
  | y :: rest =>
    match compare x y with
    | .lt => x :: y :: rest
    | .eq => y :: rest
    | .gt => y :: insert x rest

/-- The elements of a list, in order and each of them once. -/
def ofList (xs : List α) : List α := xs.foldl (fun set x ↦ insert x set) []

def erase (x : α) (set : List α) : List α := set.filter fun y ↦ compare x y != .eq

def contains (x : α) (set : List α) : Bool := set.any fun y ↦ compare x y == .eq

/-! ## Maps -/

def find? (key : κ) : List (κ × ν) → Option ν
  | [] => none
  | entry :: rest => if compare key entry.1 == .eq then some entry.2 else find? key rest

/-- Changes the value of a key, or adds the key at its place. -/
def alter (key : κ) (f : Option ν → ν) : List (κ × ν) → List (κ × ν)
  | [] => [(key, f none)]
  | entry :: rest =>
    match compare key entry.1 with
    | .lt => (key, f none) :: entry :: rest
    | .eq => (entry.1, f (some entry.2)) :: rest
    | .gt => entry :: alter key f rest

def set (key : κ) (value : ν) (map : List (κ × ν)) : List (κ × ν) := alter key (fun _ ↦ value) map

def remove (key : κ) (map : List (κ × ν)) : List (κ × ν) :=
  map.filter fun entry ↦ compare key entry.1 != .eq

end ImageFlow.Ordered
