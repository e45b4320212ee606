/-!
Contract: sets of code points as sorted tables of ranges.

Owns: the table type and its membership test. Does not own: any particular property.
-/

namespace TextCursor

/-- Inclusive ranges of code points, in increasing order and without overlap. -/
abbrev RangeTable := List (Nat × Nat)

namespace RangeTable

/-- Membership. A range that begins past the code point ends the search, since all later ones
do too. -/
def contains : RangeTable → Nat → Bool
  | [], _ => false
  | (first, last) :: later, code =>
      if code < first then false
      else if code ≤ last then true
      else contains later code

/-- The order that lets `contains` stop early. -/
def Increasing : RangeTable → Prop
  | [] => True
  | [(first, last)] => first ≤ last
  | (first, last) :: (next, stop) :: later =>
      first ≤ last ∧ last < next ∧ Increasing ((next, stop) :: later)

instance decidableIncreasing : (table : RangeTable) → Decidable table.Increasing
  | [] => inferInstanceAs (Decidable True)
  | [(first, last)] => inferInstanceAs (Decidable (first ≤ last))
  | (first, last) :: (next, stop) :: later =>
      have := decidableIncreasing ((next, stop) :: later)
      inferInstanceAs
        (Decidable (first ≤ last ∧ last < next ∧ Increasing ((next, stop) :: later)))

end RangeTable

end TextCursor
