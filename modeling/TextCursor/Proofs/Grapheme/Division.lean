import TextCursor.Grapheme.Cluster
import TextCursor.Proofs.Grapheme.Lookback

/-!
Contract: the clusters of a text are what the boundary rules say, and dividing part of a text
again changes nothing.

Owns: the pieces that the rules call for (`IsDivision`), that the automaton computes them and
that they are the only ones, and the division of what is left on either side of a cut between
two clusters.

A part is divided on its own, without the text that was cut away, while the rules look back
over all of it. The cut is harmless because the automaton begins each cluster afresh.

Does not own: cursors.
-/

namespace TextCursor

namespace Grapheme

/-- An offset at which one piece ends or another begins, the two ends included. -/
def Meets (pieces : List Text) (position : Nat) : Prop :=
  ∃ left right, pieces = left ++ right ∧ left.flatten.length = position

/-- The pieces of a text that meet exactly at its cluster boundaries. -/
structure IsDivision (text : Text) (pieces : List Text) : Prop where
  flatten : pieces.flatten = text
  ne_nil : ∀ piece ∈ pieces, piece ≠ []
  boundary : ∀ position ≤ text.length, IsBoundary text position ↔ Meets pieces position

/-! ## The automaton breaks where the rules do -/

/-- The rest of a text breaks before a code point exactly where one of its later clusters
begins. -/
theorem breaks_iff_divide {context : Context} {before : List BreakClass}
    (recalls : context.Recalls before) (rest : Text) {position : Nat} {next : Char}
    (isNext : rest[position]? = some next) :
    Rules.joined ((rest.take position).reverse.map BreakClass.ofChar ++ before)
        (BreakClass.ofChar next) = false ↔
      ∃ left right, (divide context rest).2 = left ++ right ∧ right ≠ [] ∧
        (divide context rest).1.length + left.flatten.length = position := by
  induction rest generalizing context before position with
  | nil => simp at isNext
  | cons c rest inductionHypothesis =>
      rw [divide]
      split
      next joins =>
        cases position with
        | zero =>
            obtain rfl : c = next := by simpa using isNext
            rw [recalls.joins_eq] at joins
            simp [joins]
        | succ position =>
            have isLater : rest[position]? = some next := by simpa using isNext
            have inRest := inductionHypothesis (recalls.extend (.ofChar c)) isLater
            simp only [List.take_succ_cons, List.reverse_cons, List.map_append, List.map_cons,
              List.map_nil, List.append_assoc, List.singleton_append, inRest, List.length_cons]
            constructor
            · rintro ⟨left, right, split, nonempty, length⟩
              exact ⟨left, right, split, nonempty, by omega⟩
            · rintro ⟨left, right, split, nonempty, length⟩
              exact ⟨left, right, split, nonempty, by omega⟩
      next breaks =>
        rw [recalls.joins_eq, Bool.not_eq_true] at breaks
        cases position with
        | zero =>
            obtain rfl : c = next := by simpa using isNext
            simp only [List.take_zero, List.reverse_nil, List.map_nil, List.nil_append, breaks,
              true_iff]
            exact ⟨[], _, rfl, by simp, rfl⟩
        | succ position =>
            have isLater : rest[position]? = some next := by simpa using isNext
            have inRest := inductionHypothesis (Context.Recalls.start breaks) isLater
            simp only [List.take_succ_cons, List.reverse_cons, List.map_append, List.map_cons,
              List.map_nil, List.append_assoc, List.singleton_append, inRest, List.length_nil,
              Nat.zero_add]
            constructor
            · rintro ⟨left, right, split, nonempty, length⟩
              refine ⟨_ :: left, right, by rw [split]; rfl, nonempty, ?_⟩
              simp only [List.flatten_cons, List.length_append, List.length_cons]
              omega
            · rintro ⟨left, right, split, nonempty, length⟩
              rcases List.cons_eq_append_iff.mp split with ⟨rfl, -⟩ | ⟨left, rfl, later⟩
              · simp at length
              · simp only [List.flatten_cons, List.length_append, List.length_cons] at length
                exact ⟨left, right, later, nonempty, by omega⟩

theorem meets_zero (pieces : List Text) : Meets pieces 0 := ⟨[], pieces, rfl, rfl⟩

theorem meets_end (pieces : List Text) : Meets pieces pieces.flatten.length :=
  ⟨pieces, [], by simp, rfl⟩

/-- Past the first code point and before the end, the pieces meet where the automaton breaks. -/
theorem meets_clusterTexts_succ {c : Char} {rest : Text} {position : Nat}
    (inside : position < rest.length) :
    Meets (clusterTexts (c :: rest)) (position + 1) ↔
      ∃ left right, (divide (.start (.ofChar c)) rest).2 = left ++ right ∧ right ≠ [] ∧
        (divide (.start (.ofChar c)) rest).1.length + left.flatten.length = position := by
  have whole := congrArg List.length (flatten_divide (.start (.ofChar c)) rest)
  rw [List.length_append] at whole
  constructor
  · rintro ⟨left, right, split, length⟩
    rcases List.cons_eq_append_iff.mp split with ⟨rfl, -⟩ | ⟨left, rfl, later⟩
    · simp at length
    · simp only [List.flatten_cons, List.length_append, List.length_cons] at length
      refine ⟨left, right, later, ?_, by omega⟩
      rintro rfl
      rw [later, List.append_nil] at whole
      omega
  · rintro ⟨left, right, split, -, length⟩
    refine ⟨_ :: left, right, by rw [clusterTexts, split]; rfl, ?_⟩
    simp only [List.flatten_cons, List.length_append, List.length_cons]
    omega

/-- The clusters of a text are the pieces that the rules call for. -/
theorem isDivision_clusterTexts (text : Text) : IsDivision text (clusterTexts text) where
  flatten := flatten_clusterTexts text
  ne_nil _ member := ne_nil_of_mem_clusterTexts member
  boundary position inText := by
    have atEnd := meets_end (clusterTexts text)
    rw [flatten_clusterTexts] at atEnd
    cases text with
    | nil =>
        obtain rfl : position = 0 := by simpa using inText
        exact iff_of_true (Or.inl rfl) atEnd
    | cons c rest =>
        cases position with
        | zero => exact iff_of_true (Or.inl rfl) (meets_zero _)
        | succ position =>
            rcases Nat.lt_or_ge position rest.length with inside | outside
            · obtain ⟨next, isNext⟩ : ∃ next, rest[position]? = some next :=
                ⟨_, List.getElem?_eq_getElem inside⟩
              have recalls : (Context.start (.ofChar c)).Recalls [.ofChar c] :=
                Context.Recalls.start rfl
              rw [meets_clusterTexts_succ inside, ← breaks_iff_divide recalls rest isNext]
              have notEnd : position ≠ rest.length := by omega
              simp [IsBoundary, isNext, notEnd]
            · obtain rfl : position = rest.length := by simp at inText; omega
              exact iff_of_true (Or.inr (Or.inl rfl)) atEnd

/-! ## There is only one division -/

theorem Meets.cons {first : Text} {pieces : List Text} {position : Nat} :
    Meets (first :: pieces) (first.length + position) ↔
      Meets pieces position ∨ first.length + position = 0 := by
  constructor
  · rintro ⟨left, right, split, length⟩
    rcases List.cons_eq_append_iff.mp split with ⟨rfl, -⟩ | ⟨left, rfl, rfl⟩
    · exact Or.inr (by simpa using length.symm)
    · rw [List.flatten_cons, List.length_append] at length
      exact Or.inl ⟨left, right, rfl, by omega⟩
  · rintro (⟨left, right, rfl, rfl⟩ | start)
    · exact ⟨first :: left, right, rfl, by simp⟩
    · exact ⟨[], _, rfl, by simpa using start.symm⟩

/-- A meeting past the start lies past the whole first piece. -/
theorem length_le_of_meets_cons {first : Text} {pieces : List Text} {position : Nat}
    (meets : Meets (first :: pieces) position) (positive : 0 < position) :
    first.length ≤ position := by
  obtain ⟨left, right, split, rfl⟩ := meets
  rcases List.cons_eq_append_iff.mp split with ⟨rfl, -⟩ | ⟨left, rfl, -⟩
  · simp at positive
  · simp

theorem eq_of_meets_iff {left right : List Text} (flatten : left.flatten = right.flatten)
    (leftNeNil : ∀ piece ∈ left, piece ≠ []) (rightNeNil : ∀ piece ∈ right, piece ≠ [])
    (meets : ∀ position, Meets left position ↔ Meets right position) : left = right := by
  induction left generalizing right with
  | nil =>
      cases right with
      | nil => rfl
      | cons first right => simp_all
  | cons first left inductionHypothesis =>
      cases right with
      | nil => simp_all
      | cons other right =>
          have firstPos := List.length_pos_iff.mpr (leftNeNil first (by simp))
          have otherPos := List.length_pos_iff.mpr (rightNeNil other (by simp))
          have atFirst : Meets (other :: right) first.length :=
            (meets _).mp ⟨[first], left, rfl, by simp⟩
          have atOther : Meets (first :: left) other.length :=
            (meets _).mpr ⟨[other], right, rfl, by simp⟩
          have lengthEq : first.length = other.length :=
            Nat.le_antisymm (length_le_of_meets_cons atOther otherPos)
              (length_le_of_meets_cons atFirst firstPos)
          obtain ⟨rfl, rest⟩ := List.append_inj (by simpa using flatten) lengthEq
          congr 1
          refine inductionHypothesis rest (fun piece member => leftNeNil piece (by simp [member]))
            (fun piece member => rightNeNil piece (by simp [member])) fun position => ?_
          have shifted := meets (first.length + position)
          have notStart : first.length + position ≠ 0 := by omega
          simpa only [Meets.cons, notStart, or_false] using shifted

/-- The rules leave no choice. -/
theorem IsDivision.unique {text : Text} {left right : List Text} (leftDivides : IsDivision text left)
    (rightDivides : IsDivision text right) : left = right := by
  have flatten := leftDivides.flatten.trans rightDivides.flatten.symm
  refine eq_of_meets_iff flatten leftDivides.ne_nil rightDivides.ne_nil fun position => ?_
  rcases Nat.lt_or_ge text.length position with outside | inside
  · have beyond : ∀ {pieces : List Text}, IsDivision text pieces → ¬Meets pieces position := by
      rintro pieces divides ⟨first, later, rfl, rfl⟩
      have whole := congrArg List.length divides.flatten
      rw [List.flatten_append, List.length_append] at whole
      omega
    exact iff_of_false (beyond leftDivides) (beyond rightDivides)
  · exact (leftDivides.boundary position inside).symm.trans (rightDivides.boundary position inside)

theorem IsDivision.eq_clusterTexts {text : Text} {pieces : List Text}
    (divides : IsDivision text pieces) : pieces = clusterTexts text :=
  divides.unique (isDivision_clusterTexts text)

/-! ## Parts of a division -/

/-- What stands before a cluster divides as it did. -/
theorem divide_append {context : Context} {text : Text} {left right : List Text}
    (split : (divide context text).2 = left ++ right) :
    divide context ((divide context text).1 ++ left.flatten) = ((divide context text).1, left) := by
  induction text generalizing context left with
  | nil =>
      obtain ⟨rfl, rfl⟩ : left = [] ∧ right = [] := by simpa [divide] using split
      rfl
  | cons c rest inductionHypothesis =>
      rw [divide] at split ⊢
      split at split
      next joins =>
        rw [if_pos joins, List.cons_append, divide, if_pos joins, inductionHypothesis split]
      next breaks =>
        rw [if_neg breaks]
        rcases List.cons_eq_append_iff.mp split with ⟨rfl, -⟩ | ⟨left, rfl, later⟩
        · rfl
        · rw [List.nil_append, List.flatten_cons, List.cons_append, divide, if_neg breaks,
            inductionHypothesis later]

/-- What begins with a cluster divides as it did. -/
theorem clusterTexts_flatten_of_divide {context : Context} {text : Text} {left right : List Text}
    (split : (divide context text).2 = left ++ right) :
    clusterTexts right.flatten = right := by
  induction text generalizing context left with
  | nil =>
      obtain ⟨rfl, rfl⟩ : left = [] ∧ right = [] := by simpa [divide] using split
      rfl
  | cons c rest inductionHypothesis =>
      rw [divide] at split
      split at split
      next => exact inductionHypothesis split
      next =>
        rcases List.cons_eq_append_iff.mp split with ⟨-, rfl⟩ | ⟨left, -, later⟩
        · rw [List.flatten_cons, List.cons_append, flatten_divide, clusterTexts]
        · exact inductionHypothesis later

end Grapheme

open Grapheme

/-- The first clusters of a text, divided on their own. -/
theorem clusterTexts_flatten_left {text : Text} {left right : List Text}
    (split : clusterTexts text = left ++ right) : clusterTexts left.flatten = left := by
  cases text with
  | nil =>
      obtain ⟨rfl, rfl⟩ : left = [] ∧ right = [] := by simpa [clusterTexts] using split
      rfl
  | cons c rest =>
      rcases List.cons_eq_append_iff.mp split with ⟨rfl, -⟩ | ⟨left, rfl, later⟩
      · rfl
      · rw [List.flatten_cons, List.cons_append, clusterTexts, divide_append later]

/-- The last clusters of a text, divided on their own. -/
theorem clusterTexts_flatten_right {text : Text} {left right : List Text}
    (split : clusterTexts text = left ++ right) : clusterTexts right.flatten = right := by
  cases text with
  | nil =>
      obtain ⟨rfl, rfl⟩ : left = [] ∧ right = [] := by simpa [clusterTexts] using split
      rfl
  | cons c rest =>
      rcases List.cons_eq_append_iff.mp split with ⟨-, rfl⟩ | ⟨left, -, later⟩
      · exact congrArg clusterTexts (flatten_clusterTexts (c :: rest))
      · exact clusterTexts_flatten_of_divide later

end TextCursor
