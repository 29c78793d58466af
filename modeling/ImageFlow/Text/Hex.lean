import ImageFlow.Data.Bytes

/-!
# Hexadecimal text

Byte strings are written with two digits for each byte, the high half first, in lower case. Numbers
are written with a fixed count of digits.
-/

namespace ImageFlow.Text

/-- The digit of a number below sixteen; larger numbers are reduced first. -/
def hexDigit (n : Nat) : Char :=
  let d := n % 16
  Char.ofNat (if d < 10 then 48 + d else 87 + d)

/-- The `count` lowest hexadecimal digits of a number, the highest of them first. -/
def hexDigits : Nat → Nat → List Char
  | 0, _ => []
  | count + 1, n => hexDigits count (n / 16) ++ [hexDigit n]

def hexDigitValue? (c : Char) : Option Nat :=
  if '0' ≤ c ∧ c ≤ '9' then some (c.toNat - 48)
  else if 'a' ≤ c ∧ c ≤ 'f' then some (c.toNat - 87)
  else if 'A' ≤ c ∧ c ≤ 'F' then some (c.toNat - 55)
  else none

/-- Value of a string of digits; none if a character is no digit. -/
def hexValue? (digits : List Char) : Option Nat :=
  digits.foldlM (fun value c ↦ (hexDigitValue? c).map (16 * value + ·)) 0

/-- Two digits for each byte. -/
def hexOfBytes (bytes : Bytes) : String :=
  String.ofList (bytes.toArray.toList.flatMap fun b ↦ hexDigits 2 b.toNat)

/-- The bytes that a list of digit pairs stands for. -/
def bytesOfHexDigits? : List Char → Option (List UInt8)
  | [] => some []
  | [_] => none
  | high :: low :: rest => do
    let h ← hexDigitValue? high
    let l ← hexDigitValue? low
    let bytes ← bytesOfHexDigits? rest
    some (UInt8.ofNat (16 * h + l) :: bytes)

def bytesOfHex? (text : String) : Option Bytes :=
  (bytesOfHexDigits? text.toList).map fun bytes ↦ .ofArray bytes.toArray

end ImageFlow.Text
