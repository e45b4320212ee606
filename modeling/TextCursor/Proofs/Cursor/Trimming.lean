import Mathlib.Data.List.TakeWhile
import TextCursor.Cursor.Trim
import TextCursor.Proofs.Cursor.Removal

/-!
Contract: what each trim leaves or yields, as a part of the window.

Owns: the offsets that the trims of a text go to, that they lie within the text, and that every
trim of a window that lies within its source goes through.

Does not own: which clusters are blank.
-/

namespace TextCursor.Cursor

open Edit

theorem keptRange_le (clusters : List Cluster) : (keptRange clusters).2 ≤ clusters.length := by
  have later := (List.dropWhile_suffix isBlank (l := clusters)).length_le
  have kept := (List.dropWhile_suffix isBlank
    (l := (clusters.dropWhile isBlank).reverse)).length_le
  rw [List.length_reverse] at kept
  show clusters.length - (clusters.dropWhile isBlank).length +
    ((clusters.dropWhile isBlank).reverse.dropWhile isBlank).length ≤ clusters.length
  omega

/-! ## Where the trims of a text go to -/

/-- The number of blank clusters at the front of a text. -/
def leadingBlanks (text : Text) : Nat :=
  (TextCursor.clusters text).findIdx fun cluster => !isBlank cluster

/-- The number of clusters of a text before the blank ones at its back. -/
def untilTrailingBlanks (text : Text) : Nat :=
  ((TextCursor.clusters text).reverse.dropWhile isBlank).length

/-- The first cluster that is not blank stands behind the leading blank ones. -/
theorem find?_clusters (text : Text) :
    (TextCursor.clusters text).find? (fun cluster => !isBlank cluster) =
      (TextCursor.clusters text)[leadingBlanks text]? := by
  simp only [List.find?_eq_head?_dropWhile_not, List.dropWhile_eq_drop_findIdx_not, Bool.not_not,
    List.head?_drop, leadingBlanks]

theorem untilTrailingBlanks_le (text : Text) :
    untilTrailingBlanks text ≤ (TextCursor.clusterTexts text).length := by
  rw [← length_clusters, ← List.length_reverse]
  exact (List.dropWhile_suffix isBlank).length_le

/-- The last cluster that is not blank stands before the trailing blank ones. -/
theorem head?_dropWhile_reverse_clusters (text : Text) :
    ((TextCursor.clusters text).reverse.dropWhile isBlank).head? =
      ((TextCursor.clusters text).take (untilTrailingBlanks text)).getLast? := by
  have suffix := List.dropWhile_suffix isBlank (l := (TextCursor.clusters text).reverse)
  rw [← List.reverse_prefix, List.reverse_reverse, List.prefix_iff_eq_take,
    List.length_reverse] at suffix
  rw [untilTrailingBlanks, ← suffix, List.getLast?_reverse]

/-- What a trim keeps: an offset and a size. -/
def trimmed (text : Text) : Nat × Nat :=
  let range := keptRange (TextCursor.clusters text)
  if range.2 ≤ range.1 then (0, 0)
  else (clusterOffset text range.1, clusterOffset text range.2 - clusterOffset text range.1)

theorem trimmed_fits (text : Text) : (trimmed text).1 + (trimmed text).2 ≤ text.length := by
  unfold trimmed
  dsimp only
  split
  · exact Nat.zero_le _
  · next some =>
      have ordered : clusterOffset text (keptRange (TextCursor.clusters text)).1 ≤
          clusterOffset text (keptRange (TextCursor.clusters text)).2 :=
        clusterOffset_mono (Nat.le_of_lt (Nat.lt_of_not_le some))
      have inText := clusterOffset_le text (keptRange (TextCursor.clusters text)).2
      dsimp only
      omega

variable {cursor : Cursor}

/-- The leading blank clusters go, which moves the cursor itself. -/
theorem on_skipBlanks (inside : cursor.Inside) :
    Uncached.skipBlanks.on cursor.bare =
      (.ok (), cursor.part (clusterOffset cursor.content (leadingBlanks cursor.content))
        (cursor.content.length - clusterOffset cursor.content (leadingBlanks cursor.content))) := by
  have moved : ∀ offset : Nat, offset ≤ cursor.content.length →
      (moveTo (cursor.start + offset) (cursor.size - offset)).on cursor.bare =
        (.ok (), cursor.part offset (cursor.content.length - offset)) := by
    intro offset fits
    simp only [moveTo, on_modify, inside.size_sub fits]
    rfl
  have fits := clusterOffset_le cursor.content (leadingBlanks cursor.content)
  have whole := moved _ fits
  cases first : (TextCursor.clusters cursor.content)[leadingBlanks cursor.content]? with
  | none =>
      rw [List.getElem?_eq_none_iff, length_clusters] at first
      rw [clusterOffset_of_length_le first, ← inside.size_eq] at whole
      rw [clusterOffset_of_length_le first]
      rw [← length_clusters, ← List.getElem?_eq_none_iff] at first
      simp only [Uncached.skipBlanks, on_bind, Uncached.on_clusters, on_get, bare_content,
        find?_clusters, first, bare_start, bare_size, whole]
  | some cluster =>
      rw [← (bounds_of_getElem?_clusters first).1] at whole ⊢
      simp only [Uncached.skipBlanks, on_bind, Uncached.on_clusters, on_get, bare_content,
        find?_clusters, first, bare_start, bare_size, whole]

theorem trimBack_eq (inside : cursor.Inside) :
    cursor.trimBack =
      .ok (cursor.part 0 (clusterOffset cursor.content (untilTrailingBlanks cursor.content))) := by
  have fits := clusterOffset_le cursor.content (untilTrailingBlanks cursor.content)
  have inList := untilTrailingBlanks_le cursor.content
  have last := head?_dropWhile_reverse_clusters cursor.content
  cases count : untilTrailingBlanks cursor.content with
  | zero =>
      rw [count, List.take_zero, List.getLast?_nil] at last
      simp only [trimBack, last]
      exact inside.make_part (Nat.zero_le _) (by simp) rfl
  | succ index =>
      rw [count, ← length_clusters] at inList
      have found := List.getElem?_eq_getElem inList
      rw [count, List.getLast?_take, if_neg (Nat.succ_ne_zero _), Nat.add_sub_cancel, found,
        Option.some_or] at last
      rw [count, ← (bounds_of_getElem?_clusters found).2] at fits
      simp only [trimBack, last, ← (bounds_of_getElem?_clusters found).2]
      exact inside.make_part (by omega) (by simp) rfl

theorem on_trim (inside : cursor.Inside) :
    Uncached.trim.on cursor.bare =
      (.ok (cursor.part (trimmed cursor.content).1 (trimmed cursor.content).2), cursor.bare) := by
  have fits := trimmed_fits cursor.content
  revert fits
  unfold trimmed
  generalize rangeEq : keptRange (TextCursor.clusters cursor.content) = range
  have keptEq : Uncached.kept.on cursor.bare = (.ok range, cursor.bare) := by
    simp only [Uncached.kept, on_bind, Uncached.on_clusters, on_pure, bare_content, rangeEq]
  by_cases none : range.2 ≤ range.1
  · have piece : make cursor.source cursor.start 0 = .ok (cursor.part 0 0) :=
      inside.make_part (Nat.zero_le _) (by simp) rfl
    simp only [Uncached.trim, on_bind, keptEq, on_get, if_pos none, on_ofExcept, bare_source,
      bare_start, piece, implies_true]
  · have inList := keptRange_le (TextCursor.clusters cursor.content)
    rw [rangeEq, length_clusters] at inList
    have firstInRange : range.1 < (TextCursor.clusterTexts cursor.content).length := by omega
    have lastInRange : range.2 - 1 < (TextCursor.clusterTexts cursor.content).length := by omega
    obtain ⟨first, foundFirst, offset_eq, -⟩ := existing_clusters cursor.content firstInRange
    obtain ⟨last, foundLast, -, stop_eq⟩ := existing_clusters cursor.content lastInRange
    have ordered : first.offset ≤ last.stop := by
      rw [offset_eq, stop_eq]
      exact clusterOffset_mono (by omega)
    have index : (range.2 : Int) - 1 = (range.2 - 1 : Nat) := by omega
    have lastEq : range.2 - 1 + 1 = range.2 := by omega
    rw [lastEq] at stop_eq
    rw [if_neg none, ← offset_eq, ← stop_eq]
    intro fits
    have piece : make cursor.source (cursor.start + first.offset) (last.stop - first.offset) =
        .ok (cursor.part first.offset (last.stop - first.offset)) :=
      inside.make_part fits rfl (by omega)
    simp only [Uncached.trim, on_bind, keptEq, on_get, if_neg none, on_ofExcept,
      Uncached.on_clusters, bare_content, foundFirst, index, foundLast, bare_source, bare_start,
      piece]

end TextCursor.Cursor
