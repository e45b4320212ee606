/-!
Contract: binary64 numbers as bit patterns, and exact rounding onto them.

Owns: the pattern's fields, the exact value of a finite pattern in units of 2⁻¹⁰⁷⁴, and the
nearest pattern to a ratio, a tie going to the even one.

The patterns of one sign are ordered as their magnitudes are. `ordinal` is the place in that
order, so the next larger number has the next ordinal and infinity follows the largest finite
number.
-/

namespace TextCursor

structure Binary64 where
  bits : UInt64
deriving DecidableEq, Repr

namespace Binary64

/-- The weight of the sign bit, 2⁶³. -/
def signWeight : Nat := 0x8000000000000000

/-- The number of significands between two powers of two, 2⁵². -/
def binade : Nat := 0x10000000000000

/-- The number of units in one, 2¹⁰⁷⁴. -/
def unitsPerOne : Nat := Nat.pow 2 1074

def ordinal (number : Binary64) : Nat := number.bits.toNat % signWeight

def isNegative (number : Binary64) : Bool := signWeight ≤ number.bits.toNat

def infinityOrdinal : Nat := 0x7FF * binade

def isFinite (number : Binary64) : Bool := number.ordinal < infinityOrdinal

def isInfinite (number : Binary64) : Bool := number.ordinal = infinityOrdinal

def isInvalid (number : Binary64) : Bool := infinityOrdinal < number.ordinal

def ofOrdinal (negative : Bool) (ordinal : Nat) : Binary64 :=
  ⟨.ofNat ((if negative then signWeight else 0) + ordinal)⟩

/-- The magnitude that an ordinal below infinity stands for, in units of 2⁻¹⁰⁷⁴. -/
def unitsOfOrdinal (ordinal : Nat) : Nat :=
  if ordinal < binade then ordinal
  else (binade + ordinal % binade) * Nat.pow 2 (ordinal / binade - 1)

/-- The value of a finite number, in units of 2⁻¹⁰⁷⁴. -/
def units (number : Binary64) : Int :=
  if number.isNegative then -(unitsOfOrdinal number.ordinal : Int)
  else unitsOfOrdinal number.ordinal

/-- The integer nearest to a ratio; halfway between two, the even one. -/
def roundHalfEven (numerator denominator : Nat) : Nat :=
  let quotient := numerator / denominator
  let rest := numerator % denominator
  if 2 * rest < denominator then quotient
  else if denominator < 2 * rest then quotient + 1
  else quotient + quotient % 2

/-- The ordinal nearest to a magnitude of `numerator / denominator` units.

The quotient is cut to 53 significant bits, or to whole units where it has fewer. An ordinal
grows by 2⁵² with each doubling, so the shift and the rounded significand simply add up, also
where rounding carries into the next power of two. -/
def nearestOrdinal (numerator denominator : Nat) : Nat :=
  let shift := (numerator / denominator).log2 - 52
  min infinityOrdinal
    (shift * binade + roundHalfEven numerator (denominator * Nat.pow 2 shift))

/-- The number nearest to a count of units divided by `denominator`. -/
def ofUnits (negative : Bool) (numerator denominator : Nat) : Binary64 :=
  ofOrdinal negative (nearestOrdinal numerator denominator)

/-- The number nearest to a ratio. Zero keeps the sign. -/
def ofRatio (negative : Bool) (numerator denominator : Nat) : Binary64 :=
  ofUnits negative (numerator * unitsPerOne) denominator

def zero (negative : Bool) : Binary64 := ofOrdinal negative 0

end Binary64

end TextCursor
