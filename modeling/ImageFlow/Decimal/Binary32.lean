import ImageFlow.Decimal.Shortest

/-!
# Text of a 32-bit floating-point number

Numbers from `1e-4` up to but not including `1e16` are written with a point and at least one digit
after it. Others have an exponent, and neither a point nor a zero that they do not need. A negative
zero keeps its sign; what is not a number has none.
-/

namespace ImageFlow.Decimal

/-- The interval of a positive finite number, from the bits of its magnitude. -/
def Interval.ofBinary32 (magnitude : Nat) : Interval :=
  let biased : Nat := magnitude / Nat.pow 2 23
  let fraction : Nat := magnitude % Nat.pow 2 23
  if biased = 0 then
    .ofBinary fraction (-149) false
  else
    .ofBinary (Nat.pow 2 23 + fraction) ((biased : Int) - 150) (fraction == 0 && biased > 1)

/-- Text of a decimal number without exponent. -/
def Numeral.positional (d : Numeral) : String :=
  let digits := d.digits.repr
  match d.exponent with
  | .ofNat zeros => digits ++ String.ofList (List.replicate zeros '0') ++ ".0"
  | .negSucc n =>
    let places := n + 1
    let padded := List.replicate (places + 1 - digits.length) '0' ++ digits.toList
    let point := padded.length - places
    String.ofList (padded.take point) ++ "." ++ String.ofList (padded.drop point)

/-- Text of a decimal number with one digit before the point and an exponent. -/
def Numeral.scientific (d : Numeral) : String :=
  let digits := d.digits.repr.toList
  let exponent := d.exponent + (digits.length - 1 : Nat)
  let fraction := if digits.length ≤ 1 then [] else '.' :: digits.drop 1
  let sign := if exponent < 0 then "-" else ""
  String.ofList (digits.take 1 ++ fraction) ++ "e" ++ sign ++ exponent.natAbs.repr

/-- Magnitudes from here on are written with an exponent: the number nearest to `1e16`. -/
def largeMagnitude : Nat := 0x5A0E1BCA

/-- Magnitudes below this one are written with an exponent: the number nearest to `1e-4`. -/
def smallMagnitude : Nat := 0x38D1B717

/-- Text of a finite magnitude. -/
def magnitudeText (magnitude : Nat) : String :=
  if magnitude = 0 then
    "0.0"
  else
    match (Interval.ofBinary32 magnitude).search 39 100 with
    | none => "0.0"
    | some d =>
      if magnitude < smallMagnitude ∨ largeMagnitude ≤ magnitude then d.scientific else d.positional

/-- Text of a number given by its bits. -/
def binary32Text (bits : UInt32) : String :=
  let magnitude := bits.toNat % Nat.pow 2 31
  let sign := if bits.toNat < Nat.pow 2 31 then "" else "-"
  if magnitude > 0x7F800000 then "NaN"
  else if magnitude = 0x7F800000 then sign ++ "inf"
  else sign ++ magnitudeText magnitude

end ImageFlow.Decimal
