import TextCursor.Numeral.Binary64
import TextCursor.Text.Blank

/-!
Contract: decimal numerals with an optional sign and an optional point.

Owns: the parts of a numeral, its reading from a text that holds nothing else, and its value as
a binary64 number.

Does not own: finding a numeral at the head of a longer text.
-/

namespace TextCursor

namespace Text

/-- The number that digits denote in base ten. -/
def natural (digits : Text) : Nat :=
  digits.foldl (fun value digit => value * 10 + digitValue digit) 0

end Text

/-- A sign, the digits before the point and the digits behind it. -/
structure Decimal where
  negative : Bool
  whole : Text
  fraction : Text
deriving DecidableEq, Repr

namespace Decimal

/-- The mark between the whole part and the fraction. -/
def point : Char := '.'

/-- Reads the digits and the point of a numeral. At least one digit is required, on either side
of the point; a point may stand at the end. -/
def ofUnsigned? (negative : Bool) (word : Text) : Option Decimal :=
  let whole := word.takeWhile Text.isDigit
  match word.dropWhile Text.isDigit with
  | [] => if whole.isEmpty then none else some ⟨negative, whole, []⟩
  | mark :: fraction =>
      if mark = point ∧ fraction.all Text.isDigit ∧ ¬(whole.isEmpty ∧ fraction.isEmpty) then
        some ⟨negative, whole, fraction⟩
      else none

/-- Reads a numeral; the text must hold nothing else. -/
def ofText? : Text → Option Decimal
  | '-' :: word => ofUnsigned? true word
  | '+' :: word => ofUnsigned? false word
  | word => ofUnsigned? false word

def toBinary64 (decimal : Decimal) : Binary64 :=
  .ofRatio decimal.negative (Text.natural (decimal.whole ++ decimal.fraction))
    (Nat.pow 10 decimal.fraction.length)

end Decimal

end TextCursor
