import TextCursor.Numeral.Binary64
import TextCursor.Text.Basic

/-!
Contract: the shortest decimal numeral that reads back as a given binary64 number.

Owns: the fewest digits that identify a number, and their layout around a point.

For each count of digits the two decimals next to the number are tried. If any decimal with so
many digits reads back as the number, one of these two does, since the decimals that read back
lie side by side. The first count that succeeds is the least.

Does not own: the reading of numerals.
-/

namespace TextCursor

/-- Significant digits, the last of them not zero, and the place of the point, counted from before
the first of them. -/
structure Significand where
  digits : Text
  point : Int
deriving DecidableEq, Repr

namespace Significand

/-- The exponent for a point behind the first digit, with a sign and at least two digits. -/
def exponentText (point : Int) : Text :=
  let exponent := point - 1
  let digits := Nat.toDigits 10 exponent.natAbs
  (if exponent < 0 then '-' else '+') :: (List.replicate (2 - digits.length) '0' ++ digits)

/-- Numbers from a ten-thousandth to below ten to the sixteenth are written out, with a digit on
either side of the point. Others are written with an exponent. -/
def written (significand : Significand) : Text :=
  let digits := significand.digits
  let point := significand.point
  if point ≤ -4 ∨ 16 < point then
    let later := digits.drop 1
    digits.take 1 ++ (if later.isEmpty then [] else '.' :: later) ++ 'e' :: exponentText point
  else if point ≤ 0 then '0' :: '.' :: (List.replicate point.natAbs '0' ++ digits)
  else
    let fraction := digits.drop point.toNat
    digits.take point.toNat ++ List.replicate (point.toNat - digits.length) '0' ++
      '.' :: (if fraction.isEmpty then ['0'] else fraction)

end Significand

namespace Binary64

/-- Decimal places enough to give the least positive number a digit before the point. -/
def decimalPlaces : Nat := 400

/-- The power of ten by which numbers are scaled up. -/
def decimalScale : Nat := Nat.pow 10 decimalPlaces

/-- A multiple of `step`, counted in the last decimal place, that is next to a positive number
and reads back as it; of two the nearer, and halfway between them the even one. -/
def neighbour? (number : Binary64) (step : Nat) : Option Nat :=
  let numerator := unitsOfOrdinal number.ordinal * decimalScale
  let denominator := unitsPerOne * step
  let below := numerator / denominator
  let nearest := roundHalfEven numerator denominator
  [nearest, if nearest = below then below + 1 else below].find? fun count =>
    nearestOrdinal (count * step * unitsPerOne) decimalScale = number.ordinal

theorem nearestOrdinal_neighbour {number : Binary64} {step count : Nat}
    (found : neighbour? number step = some count) :
    nearestOrdinal (count * step * unitsPerOne) decimalScale = number.ordinal := by
  simpa using List.find?_some found

/-- The fewest digits for a positive number. Seventeen are always enough. -/
def significand (number : Binary64) : Significand :=
  let scaled := unitsOfOrdinal number.ordinal * decimalScale / unitsPerOne
  let places := (Nat.toDigits 10 scaled).length
  let found := (List.range 17).findSome? fun earlier =>
    let shift := places - (earlier + 1)
    (neighbour? number (Nat.pow 10 shift)).map fun count => (count, shift)
  let (count, shift) := found.getD (scaled, 0)
  let digits := Nat.toDigits 10 count
  { digits := (digits.reverse.dropWhile (· == '0')).reverse
    point := (digits.length + shift : Nat) - decimalPlaces }

/-- The written form, which reads back as the number. -/
def written (number : Binary64) : Text :=
  if number.isInvalid then "nan".toList
  else
    let magnitude :=
      if number.isInfinite then "inf".toList
      else if number.ordinal = 0 then "0.0".toList
      else number.significand.written
    if number.isNegative then '-' :: magnitude else magnitude

end Binary64

end TextCursor
