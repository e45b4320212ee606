import TextCursor.Numeral.Arithmetic

/-!
Contract: sums of binary64 numbers that lose nothing.

Owns: the expansion, which stands for the exact sum of its parts, and the addition of one more
number to it. Numbers are given in units of 2⁻¹⁰⁷⁴.

An addition runs through the parts from the least to the greatest. At each part the sum so far
is rounded to a number that is carried on, and what rounding cut off stays behind as a part.
Hence the exact sum is kept (`total_insert`). Every carry has to be a finite number, so an
addition can fail although the sum itself would round to one.

Does not own: the rounding of a whole sum.
-/

namespace TextCursor

/-- Numbers, the least in magnitude first, that stand for their exact sum. -/
abbrev Expansion := List Int

namespace Expansion

def total : Expansion → Int
  | [] => 0
  | part :: parts => part + total parts

/-- The number nearest to a sum, unless it is infinite. -/
def carryOf (sum : Int) : Option Int :=
  let nearest := Binary64.ofSignedUnits false sum
  if nearest.isFinite then some nearest.units else none

/-- Adds a number, or yields nothing if a carry is too large. No part is zero. -/
def insert (number : Int) : Expansion → Option Expansion
  | [] => some (if number = 0 then [] else [number])
  | part :: parts => do
      let carry ← carryOf (number + part)
      let behind := number + part - carry
      let later ← insert carry parts
      return if behind = 0 then later else behind :: later

theorem total_insert {number : Int} {parts result : Expansion}
    (added : insert number parts = some result) : total result = number + total parts := by
  induction parts generalizing number result with
  | nil =>
      obtain rfl : (if number = 0 then [] else [number]) = result := Option.some.inj added
      split <;> simp [total, *]
  | cons part parts inductionHypothesis =>
      simp only [insert, Option.bind_eq_bind, Option.bind_eq_some_iff] at added
      obtain ⟨carry, _, later, laterAdded, same⟩ := added
      have exact := inductionHypothesis laterAdded
      obtain rfl := Option.some.inj same
      split <;> simp only [total, exact] <;> omega

end Expansion

end TextCursor
