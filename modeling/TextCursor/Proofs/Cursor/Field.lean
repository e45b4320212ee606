import TextCursor.Proofs.Cursor.Removal
import TextCursor.Proofs.Text.Fields

/-!
Contract: the search for a delimiter that is aligned with clusters.

Owns: that the search compares texts but finds the leftmost place where the delimiter's clusters
stand, in a window whose clusters are those of a text; and what removing a field yields.

A run of clusters whose text is the delimiter consists of the delimiter's own clusters, because
clusters cut off together divide as before. So a run cut short by the end of the window never
matches.
-/

namespace TextCursor

/-! ## Clusters from an index on -/

theorem drop_clustersAt (offset : Nat) (texts : List Text) (count : Nat) :
    (clustersAt offset texts).drop count =
      clustersAt (offset + (texts.take count).flatten.length) (texts.drop count) := by
  induction count generalizing offset texts with
  | zero => simp
  | succ count inductionHypothesis =>
      cases texts with
      | nil => simp [clustersAt]
      | cons text later =>
          rw [clustersAt, List.drop_succ_cons, inductionHypothesis]
          simp [Nat.add_assoc]

theorem flatMap_text_take_clustersAt (offset : Nat) (texts : List Text) (count : Nat) :
    ((clustersAt offset texts).take count).flatMap Cluster.text = (texts.take count).flatten := by
  rw [List.flatMap, List.map_take, map_text_clustersAt]

namespace Cursor

/-- The first clusters of a list read `delimiter` only if they are its own clusters. -/
theorem take_flatten_eq_iff (delimiter : Text) {texts : List Text}
    (divided : TextCursor.clusterTexts texts.flatten = texts) :
    (texts.take (TextCursor.clusterTexts delimiter).length).flatten = delimiter ↔
      TextCursor.clusterTexts delimiter <+: texts := by
  constructor
  · intro flattened
    have alone : TextCursor.clusterTexts
        (texts.take (TextCursor.clusterTexts delimiter).length).flatten =
          texts.take (TextCursor.clusterTexts delimiter).length :=
      clusterTexts_flatten_left (divided.trans (List.take_append_drop _ texts).symm)
    rw [flattened] at alone
    exact List.prefix_iff_eq_take.mpr alone
  · intro begins
    rw [← List.prefix_iff_eq_take.mp begins, flatten_clusterTexts]

/-- Where the clusters behind a run begin, or where the text ends if there are none. -/
theorem run_stop_eq (offset : Nat) (texts : List Text) (count : Nat) :
    ((match (clustersAt offset texts).drop count with
      | next :: _ => next.offset
      | [] => (offset + texts.flatten.length : Nat)) : Int) =
      (offset + (texts.take count).flatten.length : Nat) := by
  rw [drop_clustersAt]
  cases behind : texts.drop count with
  | nil =>
      have all : texts.take count = texts := by
        rw [← List.append_nil (texts.take count), ← behind, List.take_append_drop]
      rw [all]
      rfl
  | cons text later => rfl

/-- The search agrees with cutting the list of clusters. -/
theorem alignedSplit_clustersAt (delimiter : Text) (offset : Nat) {texts : List Text}
    (divided : TextCursor.clusterTexts texts.flatten = texts) :
    alignedSplit delimiter (TextCursor.clusterTexts delimiter).length
        (offset + texts.flatten.length : Nat) (clustersAt offset texts) =
      (cut? (TextCursor.clusterTexts delimiter) texts).map fun parts =>
        ⟨(offset + parts.1.flatten.length : Nat),
          (offset + parts.1.flatten.length + delimiter.length : Nat)⟩ := by
  induction texts generalizing offset with
  | nil => rfl
  | cons text later inductionHypothesis =>
      have run := take_flatten_eq_iff delimiter divided
      have runText := flatMap_text_take_clustersAt offset (text :: later)
        (TextCursor.clusterTexts delimiter).length
      have runStop := run_stop_eq offset (text :: later)
        (TextCursor.clusterTexts delimiter).length
      rw [clustersAt] at runText runStop ⊢
      rw [alignedSplit, cut?, runText]
      by_cases here : TextCursor.clusterTexts delimiter <+: text :: later
      · rw [run.mpr here] at runStop
        rw [if_pos (run.mpr here), if_pos here, Option.map_some]
        exact congrArg some (congrArg (Split.mk offset) runStop)
      · have parted : TextCursor.clusterTexts (text :: later).flatten = [text] ++ later := divided
        have dividedLater := clusterTexts_flatten_right parted
        have size : offset + (text :: later).flatten.length =
            offset + text.length + later.flatten.length := by
          rw [List.flatten_cons, List.length_append, Nat.add_assoc]
        rw [if_neg (mt run.mp here), if_neg here, size, inductionHypothesis _ dividedLater,
          Option.map_map]
        congr 1
        funext parts
        simp only [Function.comp, List.flatten_cons, List.length_append, Nat.add_assoc]

open Edit

variable {cursor : Cursor}

/-- Where the clusters of a text are cut at those of a delimiter, the delimiter stands in the text
between the two parts. -/
theorem text_eq_of_cut {delimiter text : Text} {before after : List Text}
    (cut : cut? (TextCursor.clusterTexts delimiter) (TextCursor.clusterTexts text) =
      some (before, after)) : text = before.flatten ++ delimiter ++ after.flatten := by
  have rejoined := congrArg List.flatten (append_of_cut?_eq_some cut)
  simpa only [flatten_clusterTexts, List.flatten_append] using rejoined

/-- Where the first field of a text ends, and where the text goes on behind the delimiter. -/
def fieldEnds? (delimiter text : Text) : Option (Nat × Nat) :=
  (cut? (TextCursor.clusterTexts delimiter) (TextCursor.clusterTexts text)).map fun parts =>
    (parts.1.flatten.length, parts.1.flatten.length + delimiter.length)

theorem fieldEnds?_fits {delimiter text : Text} {ends : Nat × Nat}
    (found : fieldEnds? delimiter text = some ends) :
    ends.1 ≤ text.length ∧ ends.2 ≤ text.length := by
  obtain ⟨⟨before, after⟩, cut, rfl⟩ := Option.map_eq_some_iff.mp found
  have width := congrArg List.length (text_eq_of_cut cut)
  simp only [List.length_append] at width
  dsimp only
  omega

theorem findField_eq (inside : cursor.Inside) (delimiter : Text) :
    cursor.findField delimiter =
      (fieldEnds? delimiter cursor.content).map fun ends => ⟨ends.1, ends.2⟩ := by
  have whole := flatten_clusterTexts cursor.content
  have split := alignedSplit_clustersAt delimiter 0 (congrArg TextCursor.clusterTexts whole)
  rw [whole] at split
  simpa [findField, fieldEnds?, Function.comp_def, inside.size_eq, TextCursor.clusters] using split

/-- The field goes, and the delimiter with it. Without a delimiter the window is one field. -/
theorem on_popField (inside : cursor.Inside) (delimiter : Text) :
    (popField delimiter).on cursor =
      match fieldEnds? delimiter cursor.content with
      | some ends => (.ok (cursor.part 0 ends.1),
          cursor.part ends.2 (cursor.content.length - ends.2))
      | none => (.ok cursor.bare, cursor.part cursor.content.length 0) := by
  have searched := findField_eq inside delimiter
  cases found : fieldEnds? delimiter cursor.content with
  | none =>
      rw [found, Option.map_none] at searched
      simp only [popField, on_bind, on_get, searched, on_popAll inside]
  | some ends =>
      obtain ⟨beforeFits, afterFits⟩ := fieldEnds?_fits found
      rw [found, Option.map_some] at searched
      simp only [popField, on_bind, on_get, searched, on_popSplit inside beforeFits afterFits]

/-- The field goes, and the delimiter with it. Without a delimiter nothing happens. -/
theorem on_popField? (inside : cursor.Inside) (delimiter : Text) :
    (popField? delimiter).on cursor =
      match fieldEnds? delimiter cursor.content with
      | some ends => (.ok (some (cursor.part 0 ends.1)),
          cursor.part ends.2 (cursor.content.length - ends.2))
      | none => (.ok none, cursor) := by
  have searched := findField_eq inside delimiter
  cases found : fieldEnds? delimiter cursor.content with
  | none =>
      rw [found, Option.map_none] at searched
      simp only [popField?, on_bind, on_get, searched, on_pure]
  | some ends =>
      obtain ⟨beforeFits, afterFits⟩ := fieldEnds?_fits found
      rw [found, Option.map_some] at searched
      simp only [popField?, on_bind, on_get, searched, on_popSplit inside beforeFits afterFits,
        on_pure]

theorem on_popField_of_uncut (inside : cursor.Inside) {delimiter : Text}
    (uncut : cut? (TextCursor.clusterTexts delimiter) (TextCursor.clusterTexts cursor.content) =
      none) :
    (popField delimiter).on cursor = (.ok cursor.bare, cursor.part cursor.content.length 0) := by
  rw [on_popField inside, fieldEnds?, uncut, Option.map_none]

/-- The clusters before the delimiter are the field, and those behind it are left. -/
theorem on_popField_of_cut (inside : cursor.Inside) {delimiter : Text} {before after : List Text}
    (cut : cut? (TextCursor.clusterTexts delimiter) (TextCursor.clusterTexts cursor.content) =
      some (before, after)) :
    ∃ piece rest, (popField delimiter).on cursor = (.ok piece, rest) ∧
      piece.Holds before.flatten ∧ rest.Holds after.flatten := by
  have content_eq := text_eq_of_cut cut
  have ends : fieldEnds? delimiter cursor.content =
      some (before.flatten.length, before.flatten.length + delimiter.length) := by
    rw [fieldEnds?, cut, Option.map_some]
  obtain ⟨beforeFits, afterFits⟩ := fieldEnds?_fits ends
  have popped := on_popField inside delimiter
  rw [ends] at popped
  have front := inside.holds_front beforeFits
  rw [content_eq, List.append_assoc, List.take_append_length] at front
  have back := inside.holds_back afterFits
  have behind : cursor.content.drop (before.flatten.length + delimiter.length) = after.flatten := by
    rw [content_eq, ← List.length_append, List.drop_append_length]
  rw [behind] at back
  exact ⟨_, _, popped, front, back⟩

theorem popField_cutsFront (inside : cursor.Inside) (delimiter : Text) :
    CutsFront (popField delimiter) id cursor := by
  cases found : fieldEnds? delimiter cursor.content with
  | none =>
      refine .congr ?_ (popAll_cutsFront inside)
      rw [on_popField inside, found, on_popAll inside]
  | some ends =>
      obtain ⟨beforeFits, afterFits⟩ := fieldEnds?_fits found
      refine ⟨ends.1, ends.2, beforeFits, afterFits, ?_⟩
      rw [on_popField inside, found]
      rfl

theorem popField?_cutsFront? (inside : cursor.Inside) (delimiter : Text) :
    CutsFront? (popField? delimiter) cursor := by
  cases found : fieldEnds? delimiter cursor.content with
  | none =>
      left
      rw [on_popField? inside, found]
  | some ends =>
      obtain ⟨beforeFits, afterFits⟩ := fieldEnds?_fits found
      right
      refine ⟨ends.1, ends.2, beforeFits, afterFits, ?_⟩
      rw [on_popField? inside, found]

end Cursor

end TextCursor
