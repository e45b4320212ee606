import Mathlib.Algebra.Order.Field.Rat
import Mathlib.Order.Monotone.Basic
import Mathlib.Algebra.Order.Group.Abs
import Mathlib.Tactic.FieldSimp
import Mathlib.Tactic.Linarith
import Mathlib.Tactic.Positivity
import Mathlib.Tactic.Ring
import TextCursor.Numeral.Binary64

/-!
Contract: rounding to the nearest magnitude of a binary64 number.

Owns: that magnitudes grow with their ordinals, what is nearest in a growing sequence, and that the
ordinal computed from a ratio is that of the nearest magnitude, of two equally near ones the even.

Infinity counts as the magnitude 2¹⁰²⁴ here, which is what follows the largest finite one. Ratios
past it are nearest to it.

Does not own: signs, and bit patterns.
-/

namespace TextCursor

/-! ## The nearest member of a growing sequence -/

/-- A place of a sequence, up to a last one, whose member is nearest to a number. If another place
is equally near, it is the even one. -/
structure IsNearestPlace (magnitude : ℕ → ℚ) (last : ℕ) (exact : ℚ) (place : ℕ) : Prop where
  bounded : place ≤ last
  nearest : ∀ other ≤ last, |magnitude place - exact| ≤ |magnitude other - exact|
  even : ∀ other ≤ last, other ≠ place →
    |magnitude other - exact| = |magnitude place - exact| → Even place

namespace IsNearestPlace

variable {magnitude : ℕ → ℚ} (growing : StrictMono magnitude) {last lower place other : ℕ}
  {exact : ℚ}

include growing

theorem distance_under (below : magnitude place ≤ exact) (low : other ≤ place) :
    |magnitude other - exact| = exact - magnitude other := by
  have ordered := growing.monotone low
  rw [abs_of_nonpos (by linarith), neg_sub]

theorem distance_over (above : exact ≤ magnitude place) (high : place ≤ other) :
    |magnitude other - exact| = magnitude other - exact := by
  have ordered := growing.monotone high
  exact abs_of_nonneg (by linarith)

/-- Past the last member, it is the nearest. -/
theorem of_past (past : magnitude last ≤ exact) : IsNearestPlace magnitude last exact last := by
  have distance := distance_under growing past (le_refl last)
  refine ⟨le_refl last, ?_, ?_⟩
  · intro other inRange
    have ordered := growing.monotone inRange
    rw [distance, distance_under growing past inRange]
    linarith
  · intro other inRange different same
    have ordered := growing (lt_of_le_of_ne inRange different)
    rw [distance, distance_under growing past inRange] at same
    linarith

/-- Between two neighbours, the lower one is nearest if it is not the farther. -/
theorem of_lower (inRange : lower ≤ last) (below : magnitude lower ≤ exact)
    (above : exact ≤ magnitude (lower + 1))
    (closer : exact - magnitude lower ≤ magnitude (lower + 1) - exact)
    (tie : exact - magnitude lower = magnitude (lower + 1) - exact → Even lower) :
    IsNearestPlace magnitude last exact lower := by
  have distance := distance_under growing below (le_refl lower)
  refine ⟨inRange, ?_, ?_⟩
  · intro other _
    rcases le_or_gt other lower with low | high
    · have ordered := growing.monotone low
      rw [distance, distance_under growing below low]
      linarith
    · have ordered := growing.monotone (Nat.succ_le_of_lt high)
      rw [distance, distance_over growing above high]
      linarith
  · intro other _ different same
    rcases lt_or_gt_of_ne different with low | high
    · have ordered := growing low
      rw [distance, distance_under growing below (le_of_lt low)] at same
      linarith
    · have ordered := growing.monotone (Nat.succ_le_of_lt high)
      rw [distance, distance_over growing above high] at same
      exact tie (by linarith)

/-- Between two neighbours, the upper one is nearest if it is not the farther. -/
theorem of_upper (inRange : lower + 1 ≤ last) (below : magnitude lower ≤ exact)
    (above : exact ≤ magnitude (lower + 1))
    (closer : magnitude (lower + 1) - exact ≤ exact - magnitude lower)
    (tie : exact - magnitude lower = magnitude (lower + 1) - exact → Even (lower + 1)) :
    IsNearestPlace magnitude last exact (lower + 1) := by
  have distance := distance_over growing above (le_refl (lower + 1))
  refine ⟨inRange, ?_, ?_⟩
  · intro other _
    rcases le_or_gt other lower with low | high
    · have ordered := growing.monotone low
      rw [distance, distance_under growing below low]
      linarith
    · have ordered := growing.monotone (Nat.succ_le_of_lt high)
      rw [distance, distance_over growing above high]
      linarith
  · intro other _ different same
    rcases lt_or_gt_of_ne different with low | high
    · have ordered := growing.monotone (Nat.le_of_lt_succ low)
      rw [distance, distance_under growing below (Nat.le_of_lt_succ low)] at same
      exact tie (by linarith)
    · have ordered := growing high
      rw [distance, distance_over growing above (le_of_lt high)] at same
      linarith

/-- Of two places, the earlier one cannot be nearest together with the later: a place between them
would be nearer, and of two neighbours one is odd. -/
theorem not_lt (isNearest : IsNearestPlace magnitude last exact place)
    (also : IsNearestPlace magnitude last exact other) : ¬place < other := by
  intro before
  have apart := growing before
  have same : |magnitude place - exact| = |magnitude other - exact| :=
    le_antisymm (isNearest.nearest other also.bounded) (also.nearest place isNearest.bounded)
  have middle : exact - magnitude place = magnitude other - exact := by
    rcases abs_eq_abs.mp same with equal | opposite <;> linarith
  rcases Nat.lt_or_ge (place + 1) other with between | neighbours
  · have above := growing (Nat.lt_succ_self place)
    have below := growing between
    have nearer := isNearest.nearest (place + 1) (le_trans (le_of_lt between) also.bounded)
    rw [distance_under growing (by linarith) (le_refl place)] at nearer
    rcases le_abs.mp nearer with high | low <;> linarith
  · obtain rfl : other = place + 1 := le_antisymm neighbours before
    have placeEven := isNearest.even _ also.bounded (Nat.succ_ne_self place) same.symm
    have otherEven := also.even _ isNearest.bounded (Nat.succ_ne_self place).symm same
    exact Nat.even_add_one.mp otherEven placeEven

theorem unique (isNearest : IsNearestPlace magnitude last exact place)
    (also : IsNearestPlace magnitude last exact other) : place = other := by
  have notBefore := not_lt growing isNearest also
  have notBehind := not_lt growing also isNearest
  omega

end IsNearestPlace

namespace Binary64

/-! ## Magnitudes in order -/

/-- An ordinal as a significand that is shifted to its place. Below 2⁵² the significand is the
ordinal itself. -/
theorem exists_significand (ordinal : ℕ) :
    ∃ shift significand, ordinal = shift * binade + significand ∧ significand < 2 * binade ∧
      (shift = 0 ∨ binade ≤ significand) ∧ shift = ordinal / binade - 1 := by
  refine ⟨ordinal / binade - 1, ordinal - (ordinal / binade - 1) * binade, ?_, ?_, ?_, rfl⟩
  all_goals simp only [binade]; omega

theorem unitsOfOrdinal_shifted {shift significand : ℕ} (fits : significand ≤ 2 * binade)
    (normal : shift = 0 ∨ binade ≤ significand) :
    unitsOfOrdinal (shift * binade + significand) = significand * 2 ^ shift := by
  unfold unitsOfOrdinal
  by_cases subnormal : shift * binade + significand < binade
  · obtain rfl : shift = 0 := by
      simp only [binade] at *
      omega
    rw [if_pos subnormal, Nat.zero_mul, Nat.zero_add, pow_zero, Nat.mul_one]
  · rw [if_neg subnormal]
    rcases Nat.lt_or_ge significand (2 * binade) with inside | full
    · have field : (shift * binade + significand) / binade - 1 = shift := by
        simp only [binade] at *
        omega
      have rest : binade + (shift * binade + significand) % binade = significand := by
        simp only [binade] at *
        omega
      rw [field, rest, Nat.pow_eq]
    · obtain rfl : significand = 2 * binade := le_antisymm fits full
      have field : (shift * binade + 2 * binade) / binade - 1 = shift + 1 := by
        simp only [binade]
        omega
      have rest : (shift * binade + 2 * binade) % binade = 0 := by
        simp only [binade]
        omega
      rw [field, rest, Nat.pow_eq, pow_succ]
      ring

theorem unitsOfOrdinal_succ (ordinal : ℕ) :
    unitsOfOrdinal (ordinal + 1) = unitsOfOrdinal ordinal + 2 ^ (ordinal / binade - 1) := by
  obtain ⟨shift, significand, parted, fits, normal, shiftEq⟩ := exists_significand ordinal
  have nextFits : significand + 1 ≤ 2 * binade := fits
  have nextNormal : shift = 0 ∨ binade ≤ significand + 1 := normal.imp_right Nat.le_succ_of_le
  rw [← shiftEq, parted, unitsOfOrdinal_shifted (le_of_lt fits) normal, Nat.add_assoc,
    unitsOfOrdinal_shifted nextFits nextNormal, Nat.add_one_mul]

theorem unitsOfOrdinal_strictMono : StrictMono unitsOfOrdinal := by
  apply strictMono_nat_of_lt_succ
  intro ordinal
  rw [unitsOfOrdinal_succ]
  exact Nat.lt_add_of_pos_right (Nat.two_pow_pos _)

/-- The magnitude of an ordinal, as a rational number. That of infinity is 2¹⁰²⁴. -/
def magnitude (ordinal : ℕ) : ℚ := unitsOfOrdinal ordinal / 2 ^ 1074

theorem magnitude_strictMono : StrictMono magnitude := by
  intro left right before
  have units : (unitsOfOrdinal left : ℚ) < unitsOfOrdinal right :=
    Nat.cast_lt.mpr (unitsOfOrdinal_strictMono before)
  exact div_lt_div_of_pos_right units (by positivity)

theorem magnitude_nonneg (ordinal : ℕ) : 0 ≤ magnitude ordinal := by
  unfold magnitude
  positivity

/-! ## The ordinal of a ratio -/

/-- The rounded quotient is the lower or the upper one of the two that a ratio lies between. -/
theorem roundHalfEven_cases (numerator denominator : ℕ) :
    let quotient := numerator / denominator
    let rest := numerator % denominator
    (roundHalfEven numerator denominator = quotient ∧ 2 * rest ≤ denominator ∧
        (2 * rest = denominator → Even quotient)) ∨
      (roundHalfEven numerator denominator = quotient + 1 ∧ denominator ≤ 2 * rest ∧
        (2 * rest = denominator → Even (quotient + 1))) := by
  intro quotient rest
  simp only [roundHalfEven, Nat.even_iff]
  split_ifs
  · left
    omega
  · right
    omega
  · omega

/-- Cut to 53 bits, a quotient is a significand. -/
theorem significand_bounds {quotient shift : ℕ} (shiftEq : quotient.log2 - 52 = shift) :
    quotient / 2 ^ shift < 2 * binade ∧ (shift = 0 ∨ binade ≤ quotient / 2 ^ shift) := by
  have above : quotient < 2 ^ (quotient.log2 + 1) := Nat.lt_log2_self
  rcases Nat.lt_or_ge 52 quotient.log2 with large | small
  · have nonzero : quotient ≠ 0 := by
      rintro rfl
      simp at large
    have below : 2 ^ quotient.log2 ≤ quotient := Nat.log2_self_le nonzero
    have size : quotient.log2 = 52 + shift := by omega
    rw [size, pow_add] at below
    rw [size, Nat.add_right_comm, pow_add] at above
    have normal := (Nat.le_div_iff_mul_le (Nat.two_pow_pos shift)).mpr below
    exact ⟨Nat.div_lt_of_lt_mul (by rwa [Nat.mul_comm]), Or.inr normal⟩
  · obtain rfl : shift = 0 := by omega
    have bounded : 2 ^ (quotient.log2 + 1) ≤ 2 ^ 53 := Nat.pow_le_pow_right (by decide) (by omega)
    rw [pow_zero, Nat.div_one]
    exact ⟨lt_of_lt_of_le above bounded, Or.inl rfl⟩

/-- A number between two neighbouring magnitudes: what division left over, out of the divisor, is
how far it is above the lower one, out of the distance between them. -/
structure Brackets (exact unit : ℚ) (lower rest divisor : ℕ) : Prop where
  unit_pos : 0 < unit
  rest_lt : rest < divisor
  toLower : exact - magnitude lower = rest / unit
  toUpper : magnitude (lower + 1) - exact = (divisor - rest) / unit

namespace Brackets

variable {exact unit : ℚ} {lower rest divisor : ℕ}
  (brackets : Brackets exact unit lower rest divisor)

include brackets

theorem lower_le : magnitude lower ≤ exact := by
  have apart : 0 ≤ (rest : ℚ) / unit :=
    div_nonneg (Nat.cast_nonneg rest) (le_of_lt brackets.unit_pos)
  have toLower := brackets.toLower
  linarith

theorem le_upper : exact ≤ magnitude (lower + 1) := by
  have fewer : (rest : ℚ) ≤ divisor := Nat.cast_le.mpr (le_of_lt brackets.rest_lt)
  have apart : 0 ≤ (divisor - rest : ℚ) / unit :=
    div_nonneg (by linarith) (le_of_lt brackets.unit_pos)
  have toUpper := brackets.toUpper
  linarith

theorem double_eq (same : exact - magnitude lower = magnitude (lower + 1) - exact) :
    2 * rest = divisor := by
  rw [brackets.toLower, brackets.toUpper, div_left_inj' (ne_of_gt brackets.unit_pos)] at same
  have doubled : ((2 * rest : ℕ) : ℚ) = divisor := by
    push_cast
    linarith
  exact Nat.cast_injective doubled

theorem isNearestPlace_lower (inRange : lower < infinityOrdinal) (closer : 2 * rest ≤ divisor)
    (tie : 2 * rest = divisor → Even lower) :
    IsNearestPlace magnitude infinityOrdinal exact lower := by
  apply IsNearestPlace.of_lower magnitude_strictMono (le_of_lt inRange) brackets.lower_le
    brackets.le_upper
  · have fewer : ((2 * rest : ℕ) : ℚ) ≤ divisor := Nat.cast_le.mpr closer
    push_cast at fewer
    rw [brackets.toLower, brackets.toUpper, div_le_div_iff_of_pos_right brackets.unit_pos]
    linarith
  · intro same
    exact tie (brackets.double_eq same)

theorem isNearestPlace_upper (inRange : lower < infinityOrdinal) (closer : divisor ≤ 2 * rest)
    (tie : 2 * rest = divisor → Even (lower + 1)) :
    IsNearestPlace magnitude infinityOrdinal exact (lower + 1) := by
  apply IsNearestPlace.of_upper magnitude_strictMono inRange brackets.lower_le brackets.le_upper
  · have more : (divisor : ℚ) ≤ (2 * rest : ℕ) := Nat.cast_le.mpr closer
    push_cast at more
    rw [brackets.toLower, brackets.toUpper, div_le_div_iff_of_pos_right brackets.unit_pos]
    linarith
  · intro same
    exact tie (brackets.double_eq same)

end Brackets

/-- A ratio lies between the magnitudes of its quotient and of the next one, where the quotient is a
significand. -/
theorem brackets_of_significand {numerator denominator shift : ℕ} (positive : 0 < denominator)
    (fits : numerator / (denominator * 2 ^ shift) < 2 * binade)
    (normal : shift = 0 ∨ binade ≤ numerator / (denominator * 2 ^ shift)) :
    Brackets (numerator / (denominator * 2 ^ 1074)) (denominator * 2 ^ 1074)
      (shift * binade + numerator / (denominator * 2 ^ shift))
      (numerator % (denominator * 2 ^ shift)) (denominator * 2 ^ shift) := by
  have divided : (numerator : ℚ) = denominator * 2 ^ shift *
      (numerator / (denominator * 2 ^ shift) : ℕ) + (numerator % (denominator * 2 ^ shift) : ℕ) := by
    exact_mod_cast (Nat.div_add_mod numerator (denominator * 2 ^ shift)).symm
  have remains := Nat.mod_lt numerator (Nat.mul_pos positive (Nat.two_pow_pos shift))
  have nonzero : (denominator : ℚ) ≠ 0 := Nat.cast_ne_zero.mpr (Nat.ne_of_gt positive)
  generalize numerator / (denominator * 2 ^ shift) = quotient at *
  generalize numerator % (denominator * 2 ^ shift) = rest at *
  have nextFits : quotient + 1 ≤ 2 * binade := fits
  have nextNormal : shift = 0 ∨ binade ≤ quotient + 1 := normal.imp_right Nat.le_succ_of_le
  refine ⟨mul_pos (Nat.cast_pos.mpr positive) (pow_pos (by decide) 1074), remains, ?_, ?_⟩
  · rw [magnitude, unitsOfOrdinal_shifted (le_of_lt fits) normal, divided]
    push_cast
    field_simp
    ring
  · rw [magnitude, Nat.add_assoc, unitsOfOrdinal_shifted nextFits nextNormal, divided]
    push_cast
    field_simp
    ring

theorem even_shifted (shift : ℕ) {significand : ℕ} (even : Even significand) :
    Even (shift * binade + significand) :=
  (Even.mul_left (by decide) shift).add even

/-- A ratio lies between two neighbouring ordinals, and the rounded quotient leads to the one that
is nearest. -/
theorem isNearestPlace_nearestOrdinal (numerator : ℕ) {denominator : ℕ}
    (positive : 0 < denominator) :
    IsNearestPlace magnitude infinityOrdinal (numerator / (denominator * 2 ^ 1074))
      (nearestOrdinal numerator denominator) := by
  generalize shiftEq : (numerator / denominator).log2 - 52 = shift
  obtain ⟨fits, normal⟩ := significand_bounds shiftEq
  rw [Nat.div_div_eq_div_mul] at fits normal
  have brackets := brackets_of_significand positive fits normal
  have rounded := roundHalfEven_cases numerator (denominator * 2 ^ shift)
  have nearest : nearestOrdinal numerator denominator = min infinityOrdinal
      (shift * binade + roundHalfEven numerator (denominator * 2 ^ shift)) := by
    rw [nearestOrdinal, shiftEq, Nat.pow_eq]
  rw [nearest]
  rcases Nat.lt_or_ge (shift * binade + numerator / (denominator * 2 ^ shift)) infinityOrdinal
    with inRange | past
  · rcases rounded with ⟨resultEq, closer, tie⟩ | ⟨resultEq, closer, tie⟩
    · rw [resultEq, min_eq_right (le_of_lt inRange)]
      exact brackets.isNearestPlace_lower inRange closer fun same => even_shifted shift (tie same)
    · rw [resultEq, ← Nat.add_assoc, min_eq_right (Nat.succ_le_of_lt inRange)]
      apply brackets.isNearestPlace_upper inRange closer
      intro same
      rw [Nat.add_assoc]
      exact even_shifted shift (tie same)
  · have beyond : infinityOrdinal ≤
        shift * binade + roundHalfEven numerator (denominator * 2 ^ shift) := by
      rcases rounded with ⟨resultEq, -⟩ | ⟨resultEq, -⟩ <;> omega
    rw [min_eq_left beyond]
    exact .of_past magnitude_strictMono
      (le_trans (magnitude_strictMono.monotone past) brackets.lower_le)

end Binary64

end TextCursor
