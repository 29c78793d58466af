import ImageFlow.Toml.Lexical
import ImageFlow.Toml.Table

/-!
# Reading TOML

A document is a list of lines. A line opens a table, begins another table of a list of tables, or
assigns a value to a key. A value is a text, a truth value, a number, a date, a list, or a table
within one line; lists and tables may be nested to a fixed depth.

A date becomes a record of one field, and infinity becomes null: no setting takes either of them
where it takes a number or a text.
-/

namespace ImageFlow.Toml

open Document ImageFlow.Toml.Parser

/-! ## Values -/

def truth : Parser Value :=
  either (do literal "true"; return .bool true) (do literal "false"; return .bool false)

/-- A date, as a record that holds the text of the date. -/
def dateRecord : Parser Value := fun s ↦
  match dateTime s with
  | some ((), rest) =>
    let text := String.ofList (s.take (s.length - rest.length))
    some (.record [("date-time", .text text)], rest)
  | none => none

/-- A value that holds no other values. -/
def plainValue : Parser Value :=
  firstOf [do return .text (← anyText), truth, dateRecord, float,
    do specialFloat; return .null, do return .int (← integer)]

/-- The items of a list. They may stand on several lines, and a comma may follow the last one. -/
def listItems (item : Parser Value) : Parser Value := do
  char '['
  let items ← optional (separated (do gaps; let value ← item; gaps; return value) (char ','))
  let _ ← if items.isSome then optional (char ',') else succeed none
  gaps
  char ']'
  return .list (items.getD [])

/-- The key of a table or of a value: the tables on the way, and the last part. -/
def keyPath : Parser (List String × String) := do
  let parts ← key
  return (parts.dropLast, parts.getLastD "")

def keyValue (item : Parser Value) : Parser ((List String × String) × Value) := do
  let path ← keyPath
  char '='
  blanks
  let value ← item
  blanks
  return (path, value)

/-- The entries of a table that is written within one line. -/
def tableItems (item : Parser Value) : Parser Value := do
  char '\x7b'
  let assignments ← optional (separated (keyValue item) (char ','))
  blanks
  char '\x7d'
  let entries ← given ((assignments.getD []).foldlM
    (fun entries ((path, key), value) ↦ assign path key value .header entries) [])
  return .record (entriesToFields entries)

/-- A value in which at most `depth` lists and tables lie within each other. -/
def value : Nat → Parser Value
  | 0 => plainValue
  | depth + 1 => firstOf [plainValue, listItems (value depth), tableItems (value depth)]

/-! ## Lines -/

/-- What a line says. -/
inductive Line
  | blank
  | table (path : List String) (key : String)
  | element (path : List String) (key : String)
  | assignment (path : List String) (key : String) (value : Value)

/-- The header of another table of a list of tables. -/
def elementHeader : Parser Line := do
  literal "[["
  let (path, key) ← keyPath
  literal "]]"
  return .element path key

def tableHeader : Parser Line := do
  char '['
  let (path, key) ← keyPath
  char ']'
  return .table path key

def assignment : Parser Line := do
  let ((path, key), value) ← keyValue (value (depthLimit - 1))
  return .assignment path key value

/-- A line with its end. A comment may follow what the line says. -/
def line : Parser Line := do
  blanks
  let line ← firstOf [elementHeader, tableHeader, assignment, succeed .blank]
  blanks
  let _ ← optional comment
  either newline done
  return line

def lines : Parser (List Line) := do
  let lines ← many line
  done
  return lines

/-! ## Documents -/

/-- A document as far as it has been read: the table that was opened last, and all entries. -/
structure Progress where
  current : List String
  root : Entries

/-- What a line adds to a document. -/
def Progress.add (progress : Progress) : Line → Option Progress
  | .blank => some progress
  | .table path key => do
    return { current := path ++ [key], root := ← openTable path key progress.root }
  | .element path key => do
    return { current := path ++ [key], root := ← openElement path key progress.root }
  | .assignment path key value => do
    return { progress with root := ← assignBelow progress.current path key value progress.root }

/-- The text without the mark that may stand at its beginning to tell its encoding. -/
def withoutMark : List Char → List Char
  | c :: rest => if c.toNat = 0xFEFF then rest else c :: rest
  | [] => []

def read (text : String) : Option Value := do
  let (lines, _) ← lines (withoutMark text.toList)
  let progress ← lines.foldlM Progress.add { current := [], root := [] }
  return .record (entriesToFields progress.root)

end ImageFlow.Toml
