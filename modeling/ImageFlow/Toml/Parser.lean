/-!
# Parsers

A parser takes a beginning off a list of characters, or fails. Repetition finds at most one thing
for each character of the text, so it ends.
-/

namespace ImageFlow.Toml

/-- Takes a beginning off the text and gives a result, or fails. -/
abbrev Parser (α : Type) := List Char → Option (α × List Char)

namespace Parser

def succeed {α : Type} (a : α) : Parser α := fun s ↦ some (a, s)

/-- One parser after the other; the second may depend on what the first gave. -/
def next {α β : Type} (p : Parser α) (q : α → Parser β) : Parser β := fun s ↦
  match p s with
  | some (a, rest) => q a rest
  | none => none

instance : Monad Parser where
  pure := succeed
  bind := next

/-- The first parser that does not fail. -/
def either {α : Type} (p q : Parser α) : Parser α := fun s ↦
  match p s with
  | some result => some result
  | none => q s

def firstOf {α : Type} : List (Parser α) → Parser α
  | [] => fun _ ↦ none
  | p :: rest => either p (firstOf rest)

/-- A parser that need not find anything. -/
def optional {α : Type} (p : Parser α) : Parser (Option α) := fun s ↦
  match p s with
  | some (a, rest) => some (some a, rest)
  | none => some (none, s)

/-- Takes nothing and gives what is there, or fails. -/
def given {α : Type} (found : Option α) : Parser α := fun s ↦ found.map fun a ↦ (a, s)

def check (condition : Bool) : Parser Unit := fun s ↦ if condition then some ((), s) else none

def oneChar (kind : Char → Bool) : Parser Char := fun s ↦
  match s with
  | c :: rest => if kind c then some (c, rest) else none
  | [] => none

def char (c : Char) : Parser Unit := fun s ↦
  match s with
  | d :: rest => if c = d then some ((), rest) else none
  | [] => none

def literal (text : String) : Parser Unit := fun s ↦
  if text.toList.isPrefixOf s then some ((), s.drop text.length) else none

/-- As many characters of a kind as there are. -/
def charsWhile (kind : Char → Bool) : Parser (List Char) := fun s ↦
  some (s.takeWhile kind, s.dropWhile kind)

def count (kind : Char → Bool) : Nat → Parser (List Char)
  | 0 => succeed []
  | n + 1 => do
    let c ← oneChar kind
    return c :: (← count kind n)

/-- As often as the parser finds something, and at most once for each character of a text. -/
def manyWithin {α : Type} (p : Parser α) : List Char → List Char → List α × List Char
  | [], s => ([], s)
  | _ :: fuel, s =>
    match p s with
    | none => ([], s)
    | some (a, []) => ([a], [])
    | some (a, rest) =>
      let (others, last) := manyWithin p fuel rest
      (a :: others, last)

/-- As often as the parser finds something before the end of the text. A parser that takes a
character each time is never cut short. -/
def many {α : Type} (p : Parser α) : Parser (List α) := fun s ↦ some (manyWithin p s s)

/-- One or more, with something between them. -/
def separated {α : Type} (p : Parser α) (separator : Parser Unit) : Parser (List α) := do
  let first ← p
  return first :: (← many (do separator; p))

def done : Parser Unit := fun s ↦ if s.isEmpty then some ((), s) else none

end Parser

end ImageFlow.Toml
