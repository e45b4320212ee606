import TextCursor.Proofs.Grapheme.Division
import TextCursor.Proofs.Text.Fields

/-!
Contract: where one text stands in another without cutting a cluster in two.

Owns: aligned occurrences, which are told by the boundary rules alone; that they are the places
where the clusters of the one text stand among the clusters of the other; and that cutting the
clusters at the leftmost such place finds the first of them.

The text that is looked for is divided on its own, and the other one without regard to it. The
clusters between two boundaries agree with that division all the same, because they are the last
ones of what begins at the first boundary, and the first ones of that.

Does not own: cursors.
-/

namespace TextCursor.Grapheme

/-- The delimiter stands at the offset, between two cluster boundaries of the text. -/
structure StandsAligned (text delimiter : Text) (offset : Nat) : Prop where
  here : delimiter <+: text.drop offset
  before : IsBoundary text offset
  behind : IsBoundary text (offset + delimiter.length)

/-- It stands there, and nowhere further left. -/
structure IsFirstAligned (text delimiter : Text) (offset : Nat) : Prop extends
    StandsAligned text delimiter offset where
  first : ∀ earlier < offset, ¬StandsAligned text delimiter earlier

section Decidability

variable (text delimiter : Text) (offset : Nat)

instance : Decidable (IsBoundary text offset) :=
  decidable_of_iff
    (offset = 0 ∨ offset = text.length ∨ text[offset]?.any fun next =>
      !Rules.joined ((text.take offset).reverse.map BreakClass.ofChar) (BreakClass.ofChar next))
    (by simp only [IsBoundary, Option.any_eq_true, Bool.not_eq_true'])

instance : Decidable (StandsAligned text delimiter offset) :=
  decidable_of_iff
    (delimiter <+: text.drop offset ∧ IsBoundary text offset ∧
      IsBoundary text (offset + delimiter.length))
    ⟨fun stands => ⟨stands.1, stands.2.1, stands.2.2⟩,
      fun stands => ⟨stands.here, stands.before, stands.behind⟩⟩

instance : Decidable (IsFirstAligned text delimiter offset) :=
  decidable_of_iff
    (StandsAligned text delimiter offset ∧
      ∀ earlier < offset, ¬StandsAligned text delimiter earlier)
    ⟨fun stands => ⟨stands.1, stands.2⟩, fun stands => ⟨stands.toStandsAligned, stands.first⟩⟩

end Decidability

variable {text delimiter : Text} {offset : Nat}

/-- There is no boundary behind the end. -/
theorem IsBoundary.le_length (boundary : IsBoundary text offset) : offset ≤ text.length := by
  rcases boundary with rfl | rfl | ⟨next, inText, -⟩
  · exact Nat.zero_le _
  · exact Nat.le_refl _
  · exact Nat.le_of_lt (List.getElem?_eq_some_iff.mp inText).1

theorem isBoundary_iff : IsBoundary text offset ↔ Meets (clusterTexts text) offset := by
  constructor
  · intro boundary
    exact ((isDivision_clusterTexts text).boundary offset boundary.le_length).mp boundary
  · intro meets
    refine ((isDivision_clusterTexts text).boundary offset ?_).mpr meets
    obtain ⟨left, right, split, rfl⟩ := meets
    have whole := congrArg (fun pieces => pieces.flatten.length) split
    simp only [flatten_clusterTexts, List.flatten_append, List.length_append] at whole
    omega

/-- Behind the first pieces, the pieces meet where the others do. -/
theorem Meets.of_append {left right : List Text} {position : Nat}
    (meets : Meets (left ++ right) (left.flatten.length + position)) : Meets right position := by
  induction left with
  | nil => simpa using meets
  | cons first later inductionHypothesis =>
      rw [List.flatten_cons, List.length_append, Nat.add_assoc, List.cons_append] at meets
      rcases Meets.cons.mp meets with further | start
      · exact inductionHypothesis further
      · obtain rfl : position = 0 := by omega
        exact meets_zero right

/-- An aligned occurrence is a run of the text's clusters, and the run is made of the delimiter's
own clusters. -/
theorem standsAligned_iff :
    StandsAligned text delimiter offset ↔
      ∃ before after, clusterTexts text = before ++ clusterTexts delimiter ++ after ∧
        before.flatten.length = offset := by
  constructor
  · rintro ⟨here, boundaryBefore, boundaryBehind⟩
    obtain ⟨before, rest, split, rfl⟩ := isBoundary_iff.mp boundaryBefore
    have meetsBehind := isBoundary_iff.mp boundaryBehind
    rw [split] at meetsBehind
    obtain ⟨run, after, parted, width⟩ := meetsBehind.of_append
    have dropped : text.drop before.flatten.length = run.flatten ++ after.flatten := by
      rw [← flatten_clusterTexts text, split, List.flatten_append, List.drop_left, parted,
        List.flatten_append]
    have runText : delimiter = run.flatten := by
      rw [dropped] at here
      rw [List.prefix_iff_eq_take.mp here, ← width, List.take_left]
    have runClusters : clusterTexts run.flatten = run := by
      have restClusters := clusterTexts_flatten_right split
      exact clusterTexts_flatten_left (restClusters.trans parted)
    refine ⟨before, after, ?_, rfl⟩
    rw [split, parted, runText, runClusters, List.append_assoc]
  · rintro ⟨before, after, split, rfl⟩
    have whole : text = before.flatten ++ (delimiter ++ after.flatten) := by
      rw [← flatten_clusterTexts text, split, List.append_assoc, List.flatten_append,
        List.flatten_append, flatten_clusterTexts]
    constructor
    · rw [whole, List.drop_left]
      exact List.prefix_append _ _
    · exact isBoundary_iff.mpr ⟨before, _, split.trans (List.append_assoc _ _ _), rfl⟩
    · refine isBoundary_iff.mpr ⟨_, after, split, ?_⟩
      rw [List.flatten_append, List.length_append, flatten_clusterTexts]

/-- The parts of a cut lie around an aligned occurrence. -/
theorem standsAligned_of_cut {before after : List Text}
    (cut : cut? (clusterTexts delimiter) (clusterTexts text) = some (before, after)) :
    StandsAligned text delimiter before.flatten.length :=
  standsAligned_iff.mpr ⟨before, after, append_of_cut?_eq_some cut, rfl⟩

theorem flatten_length_le_of_prefix {shorter longer : List Text} (begins : shorter <+: longer) :
    shorter.flatten.length ≤ longer.flatten.length := by
  obtain ⟨rest, rfl⟩ := begins
  rw [List.flatten_append, List.length_append]
  exact Nat.le_add_right _ _

/-- Cutting finds the first aligned occurrence. -/
theorem isFirstAligned_of_cut {before after : List Text}
    (cut : cut? (clusterTexts delimiter) (clusterTexts text) = some (before, after)) :
    IsFirstAligned text delimiter before.flatten.length where
  toStandsAligned := standsAligned_of_cut cut
  first earlier further stands := by
    obtain ⟨left, right, split, rfl⟩ := standsAligned_iff.mp stands
    have shorter := length_le_of_cut?_eq_some cut split
    have cutSplit := append_of_cut?_eq_some cut
    have beforeBegins : before <+: clusterTexts text := by
      rw [cutSplit, List.append_assoc]
      exact List.prefix_append _ _
    have leftBegins : left <+: clusterTexts text := by
      rw [split, List.append_assoc]
      exact List.prefix_append _ _
    have begins := List.prefix_of_prefix_length_le beforeBegins leftBegins shorter
    have widths := flatten_length_le_of_prefix begins
    omega

theorem IsFirstAligned.unique {other : Nat} (left : IsFirstAligned text delimiter offset)
    (right : IsFirstAligned text delimiter other) : offset = other := by
  apply Nat.le_antisymm
  · exact Nat.le_of_not_lt fun later => left.first other later right.toStandsAligned
  · exact Nat.le_of_not_lt fun later => right.first offset later left.toStandsAligned

theorem clusterTexts_ne_nil (nonempty : text ≠ []) : clusterTexts text ≠ [] := by
  cases text with
  | nil => contradiction
  | cons c rest => exact List.cons_ne_nil _ _

/-- Where nothing is cut there is no aligned occurrence. -/
theorem not_standsAligned_of_uncut (nonempty : delimiter ≠ [])
    (uncut : cut? (clusterTexts delimiter) (clusterTexts text) = none) (offset : Nat) :
    ¬StandsAligned text delimiter offset := by
  intro stands
  obtain ⟨before, after, split, -⟩ := standsAligned_iff.mp stands
  apply not_infix_of_cut?_eq_none (clusterTexts_ne_nil nonempty) uncut
  exact ⟨before, after, split.symm⟩

end TextCursor.Grapheme
