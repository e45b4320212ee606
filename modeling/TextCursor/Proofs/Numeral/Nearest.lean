import TextCursor.Proofs.Numeral.Grammar
import TextCursor.Proofs.Numeral.Rounding

/-!
Contract: a decimal numeral as the binary64 number that is nearest to it.

Owns: the rational number that a bit pattern stands for, when a pattern is a given number rounded,
that it is the only such pattern, and that the number read at the head of a window is the numeral
there rounded.

Rounding goes to the nearest finite number, of two equally near ones to that with the even
significand. From halfway between the largest finite number and 2¹⁰²⁴ on it goes to infinity. The
sign is that of the numeral, also for a zero.

Does not own: which ordinal is nearest to a ratio.
-/

namespace TextCursor

/-- A number with a sign in front of it. -/
def signed (negative : Bool) (size : ℚ) : ℚ := if negative then -size else size

theorem abs_signed (negative : Bool) (size : ℚ) : |signed negative size| = |size| := by
  cases negative with
  | true => exact abs_neg size
  | false => rfl

theorem abs_signed_sub (negative : Bool) (left right : ℚ) :
    |signed negative left - signed negative right| = |left - right| := by
  cases negative with
  | true => rw [signed, signed, if_pos rfl, if_pos rfl, neg_sub_neg, abs_sub_comm]
  | false => rfl

theorem signed_injective (negative : Bool) : Function.Injective (signed negative) := by
  cases negative with
  | true => exact neg_injective
  | false => exact Function.injective_id

namespace Binary64

/-! ## Bit patterns -/

def exponentField (number : Binary64) : ℕ := number.bits.toNat / 2 ^ 52 % 2 ^ 11

def fractionField (number : Binary64) : ℕ := number.bits.toNat % 2 ^ 52

/-- The number that a finite pattern stands for. -/
def value (number : Binary64) : ℚ :=
  signed number.isNegative <|
    if number.exponentField = 0 then number.fractionField * 2 ^ (-1074 : ℤ)
    else (2 ^ 52 + number.fractionField) * 2 ^ ((number.exponentField : ℤ) - 1075)

/-- Halfway between the largest finite number and 2¹⁰²⁴, which comes next to it. -/
def overflowThreshold : ℚ := 2 ^ 1024 - 2 ^ 970

/-- A pattern is an exact number, rounded. The sign is given apart, because a zero has one too. -/
structure IsRounding (number : Binary64) (exact : ℚ) (negative : Bool) : Prop where
  sign : number.isNegative = negative
  isNumber : number.isInvalid = false
  overflows : number.isInfinite = true ↔ overflowThreshold ≤ |exact|
  nearest : number.isFinite = true → ∀ other : Binary64, other.isFinite = true →
    |number.value - exact| ≤ |other.value - exact|
  even : number.isFinite = true → ∀ other : Binary64, other.isFinite = true →
    other.value ≠ number.value → |other.value - exact| = |number.value - exact| →
      Even number.fractionField

section Fields

variable (number : Binary64)

theorem exponentField_eq : number.exponentField = number.ordinal / 2 ^ 52 := by
  have bounded := number.bits.toNat_lt
  simp only [exponentField, ordinal, signWeight]
  omega

theorem fractionField_eq : number.fractionField = number.ordinal % 2 ^ 52 := by
  simp only [fractionField, ordinal, signWeight]
  omega

theorem even_fractionField_iff : Even number.fractionField ↔ Even number.ordinal := by
  rw [fractionField_eq, Nat.even_iff, Nat.even_iff]
  omega

theorem value_eq : number.value = signed number.isNegative (magnitude number.ordinal) := by
  have nonzero : (2 : ℚ) ≠ 0 := by decide
  rw [value, exponentField_eq, fractionField_eq, magnitude, unitsOfOrdinal]
  congr 1
  by_cases subnormal : number.ordinal < binade
  · have noField : number.ordinal / 2 ^ 52 = 0 := Nat.div_eq_of_lt subnormal
    have whole : number.ordinal % 2 ^ 52 = number.ordinal := Nat.mod_eq_of_lt subnormal
    rw [if_pos noField, if_pos subnormal, whole, zpow_neg, div_eq_mul_inv]
    rfl
  · have field : number.ordinal / 2 ^ 52 ≠ 0 := by
      simp only [binade] at subnormal
      omega
    have scale : ((number.ordinal / 2 ^ 52 : ℕ) : ℤ) - 1075 =
        ((number.ordinal / 2 ^ 52 - 1 : ℕ) : ℤ) - (1074 : ℕ) := by omega
    rw [if_neg field, if_neg subnormal, scale, zpow_sub₀ nonzero, zpow_natCast, zpow_natCast,
      ← mul_div_assoc, Nat.pow_eq, Nat.cast_mul, Nat.cast_add, Nat.cast_pow]
    rfl

theorem abs_value : |number.value| = magnitude number.ordinal := by
  rw [value_eq, abs_signed, abs_of_nonneg (magnitude_nonneg number.ordinal)]

theorem toNat_bits : number.bits.toNat =
    (if number.isNegative then signWeight else 0) + number.ordinal := by
  have bounded := number.bits.toNat_lt
  by_cases negative : signWeight ≤ number.bits.toNat
  · rw [isNegative, if_pos (decide_eq_true negative)]
    simp only [ordinal, signWeight] at *
    omega
  · rw [if_neg (by simpa [isNegative] using negative)]
    simp only [ordinal, signWeight] at *
    omega

end Fields

/-- A pattern is determined by its sign and its ordinal. -/
theorem eq_of_ordinal_eq {left right : Binary64} (sign : left.isNegative = right.isNegative)
    (same : left.ordinal = right.ordinal) : left = right := by
  have bits : left.bits = right.bits := by
    rw [← UInt64.toNat_inj, toNat_bits left, toNat_bits right, sign, same]
  cases left
  cases right
  exact congrArg Binary64.mk bits

section OfOrdinal

variable (negative : Bool) {ordinal : ℕ} (inRange : ordinal ≤ infinityOrdinal)

include inRange

theorem toNat_bits_ofOrdinal : (ofOrdinal negative ordinal).bits.toNat =
    (if negative then signWeight else 0) + ordinal := by
  have fits : (if negative then signWeight else 0) + ordinal < 2 ^ 64 := by
    simp only [infinityOrdinal, signWeight, binade] at *
    split <;> omega
  exact UInt64.toNat_ofNat_of_lt' fits

theorem isNegative_ofOrdinal : (ofOrdinal negative ordinal).isNegative = negative := by
  have small : ordinal < signWeight := lt_of_le_of_lt inRange (by decide)
  rw [isNegative, toNat_bits_ofOrdinal negative inRange]
  cases negative with
  | true => simp
  | false => simpa using small

theorem ordinal_ofOrdinal : (ofOrdinal negative ordinal).ordinal = ordinal := by
  have small : ordinal < signWeight := lt_of_le_of_lt inRange (by decide)
  rw [Binary64.ordinal, toNat_bits_ofOrdinal negative inRange]
  cases negative with
  | true => rw [if_pos rfl, Nat.add_mod_left, Nat.mod_eq_of_lt small]
  | false => rw [if_neg Bool.false_ne_true, Nat.zero_add, Nat.mod_eq_of_lt small]

theorem value_ofOrdinal :
    (ofOrdinal negative ordinal).value = signed negative (magnitude ordinal) := by
  rw [value_eq, isNegative_ofOrdinal negative inRange, ordinal_ofOrdinal negative inRange]

end OfOrdinal

/-! ## Rounding to infinity -/

theorem magnitude_infinity : magnitude infinityOrdinal = 2 ^ 1024 := by
  have units : unitsOfOrdinal infinityOrdinal = binade * 2 ^ 2046 :=
    @unitsOfOrdinal_shifted 2046 binade (by decide) (Or.inr (le_refl binade))
  have weight : (binade : ℚ) = 2 ^ 52 := by norm_num [binade]
  have split : (2 : ℚ) ^ 52 * 2 ^ 2046 = 2 ^ 1024 * 2 ^ 1074 :=
    (pow_add 2 52 2046).symm.trans (pow_add 2 1024 1074)
  rewrite [magnitude, units, Nat.cast_mul, Nat.cast_pow, Nat.cast_ofNat, weight, split]
  exact mul_div_cancel_right₀ _ (pow_ne_zero 1074 (by decide))

theorem magnitude_largest : magnitude (infinityOrdinal - 1) = 2 ^ 1024 - 2 ^ 971 := by
  have next : infinityOrdinal - 1 + 1 = infinityOrdinal := rfl
  have gap : (infinityOrdinal - 1) / binade - 1 = 2045 := by decide
  have units := unitsOfOrdinal_succ (infinityOrdinal - 1)
  rw [next, gap] at units
  have step : ((2 ^ 2045 : ℕ) : ℚ) / 2 ^ 1074 = 2 ^ 971 := by
    rw [Nat.cast_pow, Nat.cast_ofNat, div_eq_iff (pow_ne_zero 1074 (by decide))]
    exact pow_add 2 971 1074
  have apart : magnitude (infinityOrdinal - 1) + 2 ^ 971 = 2 ^ 1024 := by
    rw [← step, magnitude, ← add_div, ← Nat.cast_add, ← units]
    exact magnitude_infinity
  exact eq_sub_of_add_eq apart

/-- The threshold is halfway between the largest finite number and what comes next to it. -/
theorem overflowThreshold_eq :
    2 * overflowThreshold = magnitude (infinityOrdinal - 1) + magnitude infinityOrdinal := by
  have double : (2 : ℚ) ^ 971 = 2 * 2 ^ 970 := pow_succ' 2 970
  rewrite [magnitude_largest, magnitude_infinity, overflowThreshold, double]
  generalize (2 : ℚ) ^ 1024 = next
  generalize (2 : ℚ) ^ 970 = half
  ring

/-- Below the threshold the largest finite number is nearer than infinity. -/
theorem distance_largest_lt {size : ℚ} (below : size < overflowThreshold) :
    |magnitude (infinityOrdinal - 1) - size| < |magnitude infinityOrdinal - size| := by
  have midpoint := overflowThreshold_eq
  have ordered : magnitude (infinityOrdinal - 1) < magnitude infinityOrdinal :=
    magnitude_strictMono (by decide)
  have above : 0 ≤ magnitude infinityOrdinal - size := by linarith
  rw [abs_of_nonneg above]
  exact abs_lt.mpr ⟨by linarith, by linarith⟩

/-- Infinity is nearest from the threshold on. -/
theorem isNearestPlace_infinity_iff {size : ℚ} :
    IsNearestPlace magnitude infinityOrdinal size infinityOrdinal ↔ overflowThreshold ≤ size := by
  constructor
  · intro isNearest
    have closer := isNearest.nearest (infinityOrdinal - 1) (Nat.sub_le _ _)
    by_contra below
    exact absurd (distance_largest_lt (not_le.mp below)) (not_lt.mpr closer)
  · intro reached
    have midpoint := overflowThreshold_eq
    have ordered : magnitude (infinityOrdinal - 1) < magnitude infinityOrdinal :=
      magnitude_strictMono (by decide)
    rcases le_total (magnitude infinityOrdinal) size with past | within
    · exact .of_past magnitude_strictMono past
    · have below : magnitude (infinityOrdinal - 1) ≤ size := by linarith
      have closer : magnitude infinityOrdinal - size ≤ size - magnitude (infinityOrdinal - 1) := by
        linarith
      exact .of_upper magnitude_strictMono (le_refl infinityOrdinal) below within closer
        fun _ => (by decide : Even infinityOrdinal)

/-! ## The rounded pattern -/

section Rounding

variable {number : Binary64} {negative : Bool} {size : ℚ}

/-- Among patterns of one sign, distances are those of the magnitudes. -/
theorem distance_of_sign (sign : number.isNegative = negative) :
    |number.value - signed negative size| = |magnitude number.ordinal - size| := by
  rw [value_eq, sign, abs_signed_sub]

/-- A pattern of the other sign is no nearer. -/
theorem distance_le (number : Binary64) (positive : 0 ≤ size) :
    |magnitude number.ordinal - size| ≤ |number.value - signed negative size| := by
  have apart := abs_abs_sub_abs_le number.value (signed negative size)
  rwa [abs_value, abs_signed, abs_of_nonneg positive] at apart

theorem isFinite_iff : number.isFinite = true ↔ number.ordinal < infinityOrdinal :=
  decide_eq_true_iff

theorem isInfinite_iff : number.isInfinite = true ↔ number.ordinal = infinityOrdinal :=
  decide_eq_true_iff

theorem isInvalid_eq_false_iff :
    number.isInvalid = false ↔ number.ordinal ≤ infinityOrdinal := by
  rw [isInvalid, decide_eq_false_iff_not, Nat.not_lt]

theorem isFinite_ofOrdinal (negative : Bool) {ordinal : ℕ} (finite : ordinal < infinityOrdinal) :
    (ofOrdinal negative ordinal).isFinite = true := by
  rwa [isFinite_iff, ordinal_ofOrdinal negative (le_of_lt finite)]

namespace IsRounding

variable (rounding : number.IsRounding (signed negative size) negative)
  (finite : number.ordinal < infinityOrdinal) {other : ℕ}

include rounding finite

/-- Every finite ordinal has a pattern of the same sign, and that is no nearer. -/
theorem closer (otherFinite : other < infinityOrdinal) :
    |magnitude number.ordinal - size| ≤ |magnitude other - size| := by
  have nearer := rounding.nearest (isFinite_iff.mpr finite) _
    (isFinite_ofOrdinal negative otherFinite)
  rwa [distance_of_sign rounding.sign, value_ofOrdinal negative (le_of_lt otherFinite),
    abs_signed_sub] at nearer

theorem even_of_tie (otherFinite : other < infinityOrdinal) (different : other ≠ number.ordinal)
    (same : |magnitude other - size| = |magnitude number.ordinal - size|) :
    Even number.ordinal := by
  have otherValue := value_ofOrdinal negative (le_of_lt otherFinite)
  rw [← even_fractionField_iff]
  apply rounding.even (isFinite_iff.mpr finite) _ (isFinite_ofOrdinal negative otherFinite)
  · intro equal
    rw [otherValue, value_eq, rounding.sign] at equal
    exact different (magnitude_strictMono.injective (signed_injective negative equal))
  · rw [otherValue, abs_signed_sub, distance_of_sign rounding.sign, same]

/-- Infinity is farther, since the number is below the threshold. -/
theorem lt_infinity (positive : 0 ≤ size) :
    |magnitude number.ordinal - size| < |magnitude infinityOrdinal - size| := by
  have overflows := rounding.overflows
  rw [isInfinite_iff, abs_signed, abs_of_nonneg positive] at overflows
  have below : size < overflowThreshold := by
    by_contra reached
    exact absurd (overflows.mpr (not_lt.mp reached)) (ne_of_lt finite)
  exact lt_of_le_of_lt (rounding.closer finite (by decide)) (distance_largest_lt below)

end IsRounding

theorem isNearestPlace_of_isRounding (positive : 0 ≤ size)
    (rounding : number.IsRounding (signed negative size) negative) :
    IsNearestPlace magnitude infinityOrdinal size number.ordinal := by
  have bounded := isInvalid_eq_false_iff.mp rounding.isNumber
  rcases Nat.eq_or_lt_of_le bounded with infinite | finite
  · have overflows := rounding.overflows.mp (isInfinite_iff.mpr infinite)
    rw [abs_signed, abs_of_nonneg positive] at overflows
    rw [infinite]
    exact isNearestPlace_infinity_iff.mpr overflows
  · have beforeInfinity := rounding.lt_infinity finite positive
    refine ⟨bounded, ?_, ?_⟩
    · intro other inRange
      rcases Nat.eq_or_lt_of_le inRange with rfl | otherFinite
      · exact le_of_lt beforeInfinity
      · exact rounding.closer finite otherFinite
    · intro other inRange different same
      rcases Nat.eq_or_lt_of_le inRange with rfl | otherFinite
      · exact absurd same (ne_of_gt beforeInfinity)
      · exact rounding.even_of_tie finite otherFinite different same

/-- A pattern of the other sign is as far as both magnitudes together. -/
theorem distance_of_other_sign (positive : 0 ≤ size) (sign : number.isNegative ≠ negative) :
    |number.value - signed negative size| = magnitude number.ordinal + size := by
  have together : 0 ≤ magnitude number.ordinal + size :=
    add_nonneg (magnitude_nonneg number.ordinal) positive
  rw [value_eq, ← abs_of_nonneg together]
  cases negative with
  | true =>
      rw [Bool.eq_false_iff.mpr sign]
      simp [signed]
  | false =>
      rw [Bool.eq_true_of_not_eq_false sign]
      simp only [signed, if_true, Bool.false_eq_true, if_false]
      rw [← abs_neg, neg_sub, sub_neg_eq_add, add_comm]

/-- Where zero is no nearer, a pattern is not as near as its negative, unless both are zero. -/
theorem ordinal_ne_of_tie {other : Binary64} (positive : 0 ≤ size)
    (sign : number.isNegative = negative) (nearZero : |magnitude number.ordinal - size| ≤ size)
    (different : other.value ≠ number.value)
    (same : |other.value - signed negative size| = |magnitude number.ordinal - size|) :
    other.ordinal ≠ number.ordinal := by
  intro place
  have otherSign : other.isNegative ≠ negative := by
    intro equal
    apply different
    rw [value_eq, value_eq, place, sign, equal]
  rw [← same, distance_of_other_sign positive otherSign, place] at nearZero
  have nothing : magnitude number.ordinal = 0 :=
    le_antisymm (by linarith) (magnitude_nonneg number.ordinal)
  apply different
  rw [value_eq, value_eq, place, nothing]
  simp [signed]

theorem isRounding_of_isNearestPlace (positive : 0 ≤ size) (sign : number.isNegative = negative)
    (isNearest : IsNearestPlace magnitude infinityOrdinal size number.ordinal) :
    number.IsRounding (signed negative size) negative := by
  have closer {other : Binary64} (finite : other.isFinite = true) :
      |magnitude number.ordinal - size| ≤ |magnitude other.ordinal - size| :=
    isNearest.nearest _ (le_of_lt (isFinite_iff.mp finite))
  refine ⟨sign, isInvalid_eq_false_iff.mpr isNearest.bounded, ?_, ?_, ?_⟩
  · rw [isInfinite_iff, abs_signed, abs_of_nonneg positive, ← isNearestPlace_infinity_iff]
    constructor
    · intro infinite
      rwa [infinite] at isNearest
    · exact isNearest.unique magnitude_strictMono
  · intro _ other finite
    rw [distance_of_sign sign]
    exact le_trans (closer finite) (distance_le other positive)
  · intro _ other finite different same
    have zero : magnitude 0 = 0 := by simp [magnitude, unitsOfOrdinal, binade]
    have nearZero := isNearest.nearest 0 (Nat.zero_le _)
    rw [zero, zero_sub, abs_neg, abs_of_nonneg positive] at nearZero
    rw [distance_of_sign sign] at same
    rw [even_fractionField_iff]
    apply isNearest.even _ (le_of_lt (isFinite_iff.mp finite))
    · exact ordinal_ne_of_tie positive sign nearZero different same
    · exact le_antisymm (same ▸ distance_le other positive) (closer finite)

/-- A pattern is a number rounded exactly if it has the sign and its ordinal is nearest. -/
theorem isRounding_iff (positive : 0 ≤ size) :
    number.IsRounding (signed negative size) negative ↔ number.isNegative = negative ∧
      IsNearestPlace magnitude infinityOrdinal size number.ordinal :=
  ⟨fun rounding => ⟨rounding.sign, isNearestPlace_of_isRounding positive rounding⟩,
    fun ⟨sign, isNearest⟩ => isRounding_of_isNearestPlace positive sign isNearest⟩

end Rounding

/-- The number computed from a ratio is the ratio rounded, and no other pattern is. -/
theorem eq_ofRatio_iff (negative : Bool) (numerator : ℕ) {denominator : ℕ}
    (positive : 0 < denominator) (number : Binary64) :
    number = ofRatio negative numerator denominator ↔
      number.IsRounding (signed negative (numerator / denominator)) negative := by
  have nearest := isNearestPlace_nearestOrdinal (numerator * unitsPerOne) positive
  have same : ((numerator * unitsPerOne : ℕ) : ℚ) / (denominator * 2 ^ 1074) =
      numerator / denominator := by
    have nonzero : (2 : ℚ) ^ 1074 ≠ 0 := pow_ne_zero 1074 (by decide)
    have scale : (unitsPerOne : ℚ) = 2 ^ 1074 := by
      delta unitsPerOne
      -- With the exponent in sight the power would be computed.
      generalize 1074 = exponent
      rw [Nat.pow_eq, Nat.cast_pow, Nat.cast_ofNat]
    rw [Nat.cast_mul, scale, mul_div_mul_right _ _ nonzero]
  rw [same] at nearest
  have computed := ordinal_ofOrdinal negative nearest.bounded
  rw [isRounding_iff (by positivity)]
  constructor
  · rintro rfl
    refine ⟨isNegative_ofOrdinal negative nearest.bounded, ?_⟩
    rw [ofRatio, ofUnits, computed]
    exact nearest
  · rintro ⟨sign, isNearest⟩
    apply eq_of_ordinal_eq
    · rw [sign, ofRatio, ofUnits, isNegative_ofOrdinal negative nearest.bounded]
    · rw [ofRatio, ofUnits, computed]
      exact isNearest.unique magnitude_strictMono nearest

end Binary64

/-! ## Numerals -/

namespace Decimal

open Text

/-- The number that a numeral denotes. -/
def exact (decimal : Decimal) : ℚ :=
  signed decimal.negative <| inBaseTen decimal.whole +
    inBaseTen decimal.fraction / 10 ^ decimal.fraction.length

/-- A numeral is converted to the number that it denotes, rounded. -/
theorem eq_toBinary64_iff (decimal : Decimal) (number : Binary64) :
    number = decimal.toBinary64 ↔ number.IsRounding decimal.exact decimal.negative := by
  have ratio : ((natural (decimal.whole ++ decimal.fraction) : ℕ) : ℚ) /
      (Nat.pow 10 decimal.fraction.length : ℕ) =
        inBaseTen decimal.whole + inBaseTen decimal.fraction / 10 ^ decimal.fraction.length := by
    rw [natural_eq_inBaseTen, inBaseTen_append, Nat.pow_eq]
    push_cast
    field_simp
  rw [exact, ← ratio]
  exact Binary64.eq_ofRatio_iff _ _ (Nat.pow_pos (by decide)) number

end Decimal

/-- Wherever a window stands in a text, the scan for a decimal number ends well. It finds a number
exactly if the window begins with a numeral, takes the longest numeral there, and yields the one
binary64 number that is what this numeral denotes, rounded. -/
theorem Numeral.readDecimal_rounds {text : Text} {start stop : Int} (startNonneg : 0 ≤ start)
    (ordered : start ≤ stop) (inText : stop ≤ text.length) :
    ∃ reading, readDecimal text start stop = .ok reading ∧
      (reading.found = true ↔ ∃ (decimal : Decimal) (word : Text),
        IsLongestNumeral (text.slice start stop) word ∧ decimal.Spells word) ∧
      ∀ (decimal : Decimal) (word : Text), IsLongestNumeral (text.slice start stop) word →
        decimal.Spells word → reading.consumed = word.length ∧
          ∀ number : Binary64, number = reading.value ↔
            number.IsRounding decimal.exact decimal.negative := by
  have spans := Text.Spans.of_le ordered startNonneg inText
  generalize text.slice start stop = window at *
  refine ⟨decimalReadingOf window, readDecimal_eq spans, ?_, ?_⟩
  · constructor
    · intro found
      exact ⟨_, _, Parts.isLongestNumeral_iff.mpr ⟨found, rfl⟩, Parts.spells_of_found found⟩
    · rintro ⟨decimal, word, isLongest, -⟩
      exact (Parts.isLongestNumeral_iff.mp isLongest).1
  · intro decimal word isLongest spells
    obtain ⟨found, rfl⟩ := Parts.isLongestNumeral_iff.mp isLongest
    have spelled := Decimal.ofText?_eq_some_iff.mpr spells
    rw [Parts.ofText?_word found] at spelled
    obtain rfl := Option.some.inj spelled
    refine ⟨rfl, ?_⟩
    intro number
    rw [← Decimal.eq_toBinary64_iff, decimalReadingOf]
    dsimp only
    rw [if_pos found]

/-- Nearly halfway between two numbers: the last digit of the window decides, and the digit behind
the window has no say. -/
theorem Numeral.readDecimal_rounds_past_tie :
    let text : Text := "1-9007199254740993.00000000000000000019".toList
    let decimal : Decimal := ⟨true, "9007199254740993".toList, "0000000000000000001".toList⟩
    0 ≤ (1 : Int) ∧ (1 : Int) ≤ 38 ∧ (38 : Int) ≤ text.length ∧
      IsLongestNumeral (text.slice 1 38) "-9007199254740993.0000000000000000001".toList ∧
      decimal.Spells "-9007199254740993.0000000000000000001".toList ∧
      readDecimal text 1 38 = .ok ⟨⟨0xC340000000000001⟩, 37, true⟩ ∧
      Binary64.IsRounding ⟨0xC340000000000001⟩ decimal.exact true := by
  intro text decimal
  have inText : (38 : Int) ≤ text.length := by decide
  have isLongest : IsLongestNumeral (text.slice 1 38)
      "-9007199254740993.0000000000000000001".toList :=
    Parts.isLongestNumeral_iff.mpr (by decide +kernel)
  have spells : decimal.Spells "-9007199254740993.0000000000000000001".toList :=
    Decimal.ofText?_eq_some_iff.mp (by decide +kernel)
  have computed : readDecimal text 1 38 = .ok ⟨⟨0xC340000000000001⟩, 37, true⟩ := by decide +kernel
  obtain ⟨reading, read, -, takes⟩ :=
    readDecimal_rounds (by decide : 0 ≤ (1 : Int)) (by decide) inText
  obtain rfl := Except.ok.inj (read.symm.trans computed)
  obtain ⟨-, rounds⟩ := takes decimal _ isLongest spells
  exact ⟨by decide, by decide, inText, isLongest, spells, computed, (rounds _).mp rfl⟩

/-- A zero keeps its sign, with no digit before the point as well. -/
example : (Numeral.readDecimal "-.000".toList 0 5).map (·.value) =
    .ok ⟨0x8000000000000000⟩ := by
  decide +kernel

end TextCursor
