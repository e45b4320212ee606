import TextCursor.Numeral.Binary64

/-!
Contract: the arithmetic on binary64 numbers that measuring and comparing need.

Owns: difference, product with a whole factor, order, equality, and two decimal places.
Finite results are the exact ones, rounded once.
-/

namespace TextCursor

/-- The largest integer whose square is at most `square`. -/
def integerSqrt (square : Nat) : Nat :=
  if square = 0 then 0
  else
    let half := 2 * integerSqrt (square / 4)
    if (half + 1) * (half + 1) ≤ square then half + 1 else half
termination_by square

namespace Binary64

/-- The answer to an invalid operation. -/
def invalid : Binary64 := ⟨0xFFF8000000000000⟩

/-- An operand that is not a number, as an operation passes it on. -/
def passedOn (number : Binary64) : Binary64 := ⟨number.bits ||| 0x0008000000000000⟩

def infinity (negative : Bool) : Binary64 := ofOrdinal negative infinityOrdinal

/-- The nearest number to a signed count of units. An exact zero takes the sign given. -/
def ofSignedUnits (zeroNegative : Bool) (units : Int) : Binary64 :=
  if units = 0 then zero zeroNegative
  else ofUnits (units < 0) units.natAbs 1

/-- The difference of two numbers. A zero difference is negative only for negative zero less
positive zero. -/
def minus (left right : Binary64) : Binary64 :=
  if left.isInvalid then left.passedOn
  else if right.isInvalid then right.passedOn
  else if left.isInfinite then
    if right.isInfinite && left.isNegative == right.isNegative then invalid else left
  else if right.isInfinite then infinity !right.isNegative
  else
    ofSignedUnits (left.ordinal = 0 && left.isNegative && !right.isNegative)
      (left.units - right.units)

def scaled (number : Binary64) (factor : Nat) : Binary64 :=
  if number.isInvalid then number.passedOn
  else if number.isInfinite then number
  else ofUnits number.isNegative (unitsOfOrdinal number.ordinal * factor) 1

/-- The place of a number in the order, with both zeros at zero. -/
def rank (number : Binary64) : Int :=
  if number.isNegative then -(number.ordinal : Int) else number.ordinal

/-- Nothing is less or greater than what is not a number. -/
def isLess (left right : Binary64) : Bool :=
  !left.isInvalid && !right.isInvalid && left.rank < right.rank

/-- Nothing equals what is not a number. Both zeros are equal. -/
def equals (left right : Binary64) : Bool :=
  !left.isInvalid && !right.isInvalid && left.rank == right.rank

/-- Two decimal places; halfway between two, the even one. The sign is kept also before zero. -/
def toHundredths (number : Binary64) : String :=
  if number.isInvalid then "nan"
  else
    let sign := if number.isNegative then "-" else ""
    if number.isInfinite then sign ++ "inf"
    else
      let hundredths := roundHalfEven (unitsOfOrdinal number.ordinal * 100) unitsPerOne
      let rest := hundredths % 100
      sign ++ toString (hundredths / 100) ++ "." ++
        String.ofList [Nat.digitChar (rest / 10), Nat.digitChar (rest % 10)]

end Binary64

end TextCursor
