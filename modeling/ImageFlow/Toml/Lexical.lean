import ImageFlow.Document.Value
import ImageFlow.Text.Hex
import ImageFlow.Toml.Parser

/-!
# Lexical forms of TOML

Blanks, comments, texts, keys, numbers and dates. Texts come in four forms: with or without escapes,
on one line or on several. A date is checked against the calendar; its value is not needed.
-/

namespace ImageFlow.Toml

open Document ImageFlow.Toml.Parser

/-! ## Blanks -/

def isBlank (c : Char) : Bool := c == ' ' || c == '\t'

/-- A character that may stand in a text or a comment as it is: no control but the tab. -/
def isPlain (c : Char) : Bool := c == '\t' || (32 ≤ c.toNat && c.toNat != 127)

def blanks : Parser Unit := do let _ ← charsWhile isBlank

def newline : Parser Unit := either (char '\n') (literal "\r\n")

/-- A comment, up to the end of the line. -/
def comment : Parser Unit := do char '#'; let _ ← charsWhile isPlain

/-- Blanks, comments and ends of lines. -/
def gaps : Parser Unit := do
  let _ ← many (firstOf [do let _ ← oneChar isBlank, newline, do comment; newline])

/-! ## Texts -/

/-- The character of a code point, if it is one that text can hold. -/
def scalar (digits : List Char) : Parser Char := fun s ↦
  match Text.hexValue? digits with
  | some n => if h : n.isValidChar then some (Char.ofNatAux n h, s) else none
  | none => none

def isHexDigit (c : Char) : Bool := (Text.hexDigitValue? c).isSome

/-- What follows a backslash. -/
def escape : Parser Char := do
  match ← oneChar fun _ ↦ true with
  | 'b' => return Char.ofNat 8
  | 't' => return '\t'
  | 'n' => return '\n'
  | 'f' => return Char.ofNat 12
  | 'r' => return '\r'
  | 'u' => scalar (← count isHexDigit 4)
  | 'U' => scalar (← count isHexDigit 8)
  | c => do
    check (c.toNat == 34 || c.toNat == 92)
    return c

def basicText : Parser String := do
  char '\x22'
  let chars ← many (either (oneChar fun c ↦ isPlain c && c.toNat != 34 && c.toNat != 92)
    (do char '\x5c'; escape))
  char '\x22'
  return String.ofList chars

/-- A text without escapes, on one line. -/
def literalText : Parser String := do
  char '\x27'
  let chars ← charsWhile fun c ↦ isPlain c && c.toNat != 39
  char '\x27'
  return String.ofList chars

/-- A given number of a quotation mark that is not followed by another one. -/
def quotes (mark : Char) : Nat → Parser (List Char)
  | 0 => fun s ↦ if s.head? = some mark then none else some ([], s)
  | n + 1 => do
    char mark
    return mark :: (← quotes mark n)

/-- One or two quotation marks within a text on several lines. -/
def innerQuotes (mark : Char) : Parser (List Char) := either (quotes mark 1) (quotes mark 2)

/-- Three quotation marks that end a text, after up to two that belong to it. -/
def closingQuotes (mark : Char) : Parser (List Char) := do
  let marks ← charsWhile (· == mark)
  check (3 ≤ marks.length && marks.length ≤ 5)
  return marks.drop 3

/-- A backslash at the end of a line: it and all blanks and ends of lines after it do not count. -/
def continuation : Parser (List Char) := do
  char '\x5c'
  blanks
  newline
  let _ ← many (either (do let _ ← oneChar isBlank) newline)
  return []

/-- A text on several lines; an end of line right at its beginning does not count. -/
def longText (mark : Char) (piece : Parser (List Char)) : Parser String := do
  char mark
  char mark
  char mark
  let _ ← optional newline
  let pieces ← many (firstOf [piece, do newline; return ['\n'], innerQuotes mark])
  let rest ← closingQuotes mark
  return String.ofList (pieces.flatten ++ rest)

/-- A text with escapes, on several lines. -/
def longBasicText : Parser String :=
  longText '\x22' (firstOf [do return [← oneChar fun c ↦
    isPlain c && c.toNat != 34 && c.toNat != 92], continuation, do char '\x5c'; return [← escape]])

/-- A text without escapes, on several lines. -/
def longLiteralText : Parser String :=
  longText '\x27' (do return [← oneChar fun c ↦ isPlain c && c.toNat != 39])

def anyText : Parser String := firstOf [longBasicText, longLiteralText, basicText, literalText]

/-! ## Keys -/

/-- A character of a key without quotation marks. -/
def isKeyChar (c : Char) : Bool := c.isAlphanum || c == '_' || c == '-'

/-- One part of a key. -/
def simpleKey : Parser String :=
  firstOf [basicText, literalText, do
    let chars ← charsWhile isKeyChar
    check !chars.isEmpty
    return String.ofList chars]

/-- How many levels values and keys may be nested. -/
def depthLimit : Nat := 80

/-- A key: parts joined by points. -/
def key : Parser (List String) := do
  let parts ← separated (do blanks; let part ← simpleKey; blanks; return part) (char '.')
  check (parts.length < depthLimit)
  return parts

/-! ## Numbers -/

/-- Digits of a kind, with single underscores between them. -/
def digits (kind : Char → Bool) : Parser (List Char) := do
  let first ← oneChar kind
  let rest ← many (do let _ ← optional (char '_'); oneChar kind)
  return first :: rest

/-- The number of a list of digits to a base. -/
def numberOf (base : Nat) (digits : List Char) : Int :=
  digits.foldl (fun n c ↦ base * n + (Text.hexDigitValue? c).getD 0) 0

/-- A sign; true for minus. -/
def sign : Parser Bool :=
  firstOf [do char '+'; return false, do char '-'; return true, succeed false]

/-- Digits of a decimal number, without superfluous zeros at the beginning. -/
def decimalDigits : Parser (List Char) :=
  either (do
      let first ← oneChar fun c ↦ c.isDigit && c != '0'
      let rest ← many (do let _ ← optional (char '_'); oneChar Char.isDigit)
      return first :: rest)
    (do char '0'; return ['0'])

/-- An integer to a base other than ten. -/
def basedInteger (mark : String) (base : Nat) (kind : Char → Bool) : Parser Int := do
  literal mark
  return numberOf base (← digits kind)

/-- An integer, which must fit into a signed 64-bit word. -/
def integer : Parser Int := do
  let n ← firstOf [basedInteger "0x" 16 isHexDigit,
    basedInteger "0o" 8 fun c ↦ '0' ≤ c && c ≤ '7',
    basedInteger "0b" 2 fun c ↦ c == '0' || c == '1',
    do
      let negative ← sign
      let n := numberOf 10 (← decimalDigits)
      return if negative then -n else n]
  check (-Int.pow 2 63 ≤ n && n < Int.pow 2 63)
  return n

def exponent : Parser Int := do
  let _ ← oneChar fun c ↦ c == 'e' || c == 'E'
  let negative ← sign
  let n := numberOf 10 (← digits Char.isDigit)
  return if negative then -n else n

/-- Whether `mantissa * 10 ^ exponent` is too large for a floating-point number of 64 bits. The
place of the leading digit decides all cases but those close to the largest such number, which has
309 digits. -/
def overflows (mantissa : Nat) (exponent : Int) : Bool :=
  let digitCount := exponent + mantissa.repr.length
  mantissa != 0 && (309 < digitCount || (digitCount == 309 &&
    (Nat.pow 2 1024 - Nat.pow 2 970) * Nat.pow 10 (-exponent).toNat ≤
      mantissa * Nat.pow 10 exponent.toNat))

/-- The number `mantissa * 10 ^ exponent`. -/
def scaled (mantissa exponent : Int) : Value :=
  if mantissa = 0 then .decimal 0 0
  else .decimal (mantissa * Int.pow 10 exponent.toNat) (-exponent).toNat

/-- A number with a fraction or an exponent. Too large a number is refused; too small a one, far
below zero, counts as minus infinity, which has no value that a document could hold. -/
def float : Parser Value := do
  let negative ← sign
  let whole ← decimalDigits
  let fraction ← optional (do char '.'; digits Char.isDigit)
  let power ← optional exponent
  check (fraction.isSome || power.isSome)
  let places := fraction.getD []
  let n := numberOf 10 (whole ++ places)
  let shift := power.getD 0 - places.length
  let isInfinite := overflows n.toNat shift
  check (negative || !isInfinite)
  return if isInfinite then .null else scaled (if negative then -n else n) shift

/-- Infinity, or no number. Neither has a value that a document could hold. -/
def specialFloat : Parser Unit := do
  let _ ← sign
  either (literal "inf") (literal "nan")

/-! ## Dates and times -/

/-- A number of a fixed count of digits within bounds. -/
def bounded (places least greatest : Nat) : Parser Nat := do
  let n := (numberOf 10 (← count Char.isDigit places)).toNat
  check (least ≤ n && n ≤ greatest)
  return n

def daysIn (year month : Nat) : Nat :=
  if month = 2 then
    if year % 4 = 0 ∧ (year % 100 ≠ 0 ∨ year % 400 = 0) then 29 else 28
  else if month = 4 ∨ month = 6 ∨ month = 9 ∨ month = 11 then 30
  else 31

def date : Parser Unit := do
  let year ← bounded 4 0 9999
  char '-'
  let month ← bounded 2 1 12
  char '-'
  let _ ← bounded 2 1 (daysIn year month)

def time : Parser Unit := do
  let _ ← bounded 2 0 23
  char ':'
  let _ ← bounded 2 0 59
  char ':'
  let _ ← bounded 2 0 60
  let _ ← optional (do
    char '.'
    let places ← charsWhile Char.isDigit
    check !places.isEmpty)

/-- The distance of a time from the time at Greenwich. -/
def offset : Parser Unit :=
  either (do let _ ← oneChar fun c ↦ c == 'Z' || c == 'z')
    (do
      let _ ← oneChar fun c ↦ c == '+' || c == '-'
      let _ ← bounded 2 0 23
      char ':'
      let _ ← bounded 2 0 59)

def dateTime : Parser Unit :=
  either
    (do
      date
      let _ ← optional (do
        let _ ← oneChar fun c ↦ c == 'T' || c == 't' || c == ' '
        time
        let _ ← optional offset))
    time

end ImageFlow.Toml
