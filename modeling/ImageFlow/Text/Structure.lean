import ImageFlow.Text.Hex
import ImageFlow.Text.Printable

/-!
# Structural text

Values are described for diagnostics by the way they are built: a record by its name and fields, an
application by its head and arguments, a list in brackets, a text in quotes. The pieces are joined
here; each type chooses its own names.
-/

namespace ImageFlow.Text

/-- The digits of a code point, without leading zeros. -/
def codePointDigits (n : Nat) : List Char :=
  match (hexDigits 6 n).dropWhile (· == '0') with
  | [] => ['0']
  | digits => digits

/-- How one character is written between quotes. -/
def quoteChar (c : Char) : List Char :=
  match c.toNat with
  | 0 => ['\\', '0']
  | 9 => ['\\', 't']
  | 10 => ['\\', 'n']
  | 13 => ['\\', 'r']
  | 34 => ['\\', '\x22']
  | 92 => ['\\', '\\']
  | n => if isPrintable c then [c] else ['\\', 'u', '\x7b'] ++ codePointDigits n ++ ['\x7d']

/-- A text in double quotes, with escapes for what has no form of its own. -/
def quote (text : String) : String :=
  String.ofList (['\x22'] ++ text.toList.flatMap quoteChar ++ ['\x22'])

def listText (items : List String) : String :=
  "[" ++ ", ".intercalate items ++ "]"

def applyText (head : String) (arguments : List String) : String :=
  head ++ "(" ++ ", ".intercalate arguments ++ ")"

/-- A record with named fields, in order. -/
def recordText (name : String) (fields : List (String × String)) : String :=
  let shown := fields.map fun field ↦ field.1 ++ ": " ++ field.2
  name ++ " \x7b " ++ ", ".intercalate shown ++ " \x7d"

/-- An optional value: `None`, or the value under `Some`. -/
def optionText : Option String → String
  | none => "None"
  | some text => applyText "Some" [text]

def boolText (b : Bool) : String := if b then "true" else "false"

end ImageFlow.Text
