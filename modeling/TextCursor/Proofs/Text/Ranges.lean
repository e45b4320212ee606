import TextCursor.Grapheme.BreakClass
import TextCursor.Text.Blank
import TextCursor.Text.Casing.Lower
import TextCursor.Text.Printable

/-!
Contract: what the tables of code points hold.

Owns: that a search which stops at the first range past a code point misses nothing in a table
whose ranges increase; that the ranges of every table of the library do; and the lower-case form
of a code point by the one range that covers it, if any does.

Does not own: which code points a table should hold.
-/

namespace TextCursor

namespace RangeTable

/-- The code point is one of the range. -/
def Covers (range : Nat × Nat) (code : Nat) : Prop := range.1 ≤ code ∧ code ≤ range.2

namespace Increasing

variable {range : Nat × Nat} {later : RangeTable}

theorem fits (increasing : Increasing (range :: later)) : range.1 ≤ range.2 := by
  cases later with
  | nil => exact increasing
  | cons next later => exact increasing.1

theorem tail (increasing : Increasing (range :: later)) : later.Increasing := by
  cases later with
  | nil => trivial
  | cons next later => exact increasing.2.2

/-- Everything behind a range is past it. -/
theorem past (increasing : Increasing (range :: later)) :
    ∀ further ∈ later, range.2 < further.1 := by
  induction later generalizing range with
  | nil => nofun
  | cons next later inductionHypothesis =>
      intro further member
      have apart : range.2 < next.1 := increasing.2.1
      rcases List.mem_cons.mp member with rfl | behind
      · exact apart
      · have nextFits := increasing.tail.fits
        have pastNext := inductionHypothesis increasing.tail further behind
        omega

theorem not_covers (increasing : Increasing (range :: later)) {code : Nat}
    (notPast : code ≤ range.2) : ¬∃ further ∈ later, Covers further code := by
  rintro ⟨further, member, reached, -⟩
  have past := increasing.past further member
  omega

end Increasing

/-- What the search finds is all that the table holds. -/
theorem contains_iff {table : RangeTable} (increasing : table.Increasing) (code : Nat) :
    table.contains code = true ↔ ∃ range ∈ table, Covers range code := by
  induction table with
  | nil => simp [contains]
  | cons range later inductionHypothesis =>
      have fits := increasing.fits
      simp only [contains, List.mem_cons, or_and_right, exists_or, exists_eq_left]
      split
      next before =>
        have notHere : ¬Covers range code := fun covers => absurd covers.1 (by omega)
        have nowhere : ¬∃ further ∈ later, Covers further code :=
          increasing.not_covers (by omega)
        simp only [notHere, nowhere, or_self, Bool.false_eq_true]
      next begun =>
        split
        next within =>
          have here : Covers range code := ⟨Nat.not_lt.mp begun, within⟩
          simp only [here, true_or]
        next beyond =>
          have notHere : ¬Covers range code := fun covers => beyond covers.2
          rw [inductionHypothesis increasing.tail, or_iff_right notHere]

end RangeTable

/-! ## Lower-case forms -/

namespace Text.Casing

open RangeTable

/-- The ranges that are looked up for a lower-case form. -/
def spans (table : List Shifted) : RangeTable := table.map fun range => (range.first, range.last)

/-- The form that a range gives to a code point of its own. -/
def Shifted.form (range : Shifted) (code : Nat) : Nat :=
  if (code - range.first) % range.step = 0 then (code + range.shift).toNat else code

theorem lowerCode_of_covers {table : List Shifted} (increasing : (spans table).Increasing)
    {code : Nat} {range : Shifted} (member : range ∈ table)
    (covers : Covers (range.first, range.last) code) :
    lowerCode code table = range.form code := by
  induction table with
  | nil => contradiction
  | cons head later inductionHypothesis =>
      have reached : range.first ≤ code := covers.1
      rcases List.mem_cons.mp member with rfl | behind
      · rw [lowerCode, if_neg (Nat.not_lt.mpr reached), if_pos covers.2]
        rfl
      · have inSpans : (range.first, range.last) ∈ spans later :=
          List.mem_map.mpr ⟨range, behind, rfl⟩
        have past : head.last < range.first := increasing.past _ inSpans
        have fits : head.first ≤ head.last := increasing.fits
        have begun : ¬code < head.first := by omega
        have beyond : ¬code ≤ head.last := by omega
        rw [lowerCode, if_neg begun, if_neg beyond]
        exact inductionHypothesis increasing.tail behind

theorem lowerCode_of_not_covers {table : List Shifted} {code : Nat}
    (nowhere : ∀ range ∈ table, ¬Covers (range.first, range.last) code) :
    lowerCode code table = code := by
  induction table with
  | nil => rfl
  | cons head later inductionHypothesis =>
      have notHere := nowhere head List.mem_cons_self
      rw [lowerCode]
      split
      next => rfl
      next begun =>
        rw [if_neg fun within => notHere ⟨Nat.not_lt.mp begun, within⟩]
        exact inductionHypothesis fun range member => nowhere range (List.mem_cons_of_mem _ member)

end Text.Casing

/-! ## The tables of the library -/

open Grapheme.Property Text Text.Casing in
/-- Everything that is looked up by code point. -/
def tables : List RangeTable :=
  [control, prepended, spacingMark, linker, consonant, leadingJamo, vowelJamo, trailingJamo,
   pictographic, extend, unprintable, blank, cased, caseIgnorable, spans lowered]

theorem increasing_of_mem_tables : ∀ table ∈ tables, table.Increasing := by
  decide +kernel

/-- No table hides a range behind one that ends the search too early. -/
theorem contains_iff_of_mem_tables {table : RangeTable} (member : table ∈ tables) (code : Nat) :
    table.contains code = true ↔ ∃ range ∈ table, RangeTable.Covers range code :=
  RangeTable.contains_iff (increasing_of_mem_tables table member) code

/-- A code point has the form that its range gives it, or stays as it is if it has none. -/
theorem Text.Casing.lowerCode_lowered (code : Nat) :
    (∀ range ∈ lowered, RangeTable.Covers (range.first, range.last) code →
        lowerCode code lowered = range.form code) ∧
      ((∀ range ∈ lowered, ¬RangeTable.Covers (range.first, range.last) code) →
        lowerCode code lowered = code) := by
  have increasing : (spans lowered).Increasing :=
    increasing_of_mem_tables _ (by simp only [tables, List.mem_cons, true_or, or_true])
  exact ⟨fun range member covers => lowerCode_of_covers increasing member covers,
    lowerCode_of_not_covers⟩

end TextCursor
