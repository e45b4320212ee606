import TextCursor.Proofs.Grapheme.Alignment
import TextCursor.Proofs.Grapheme.Offset

/-!
Contract: the clusters of the two parts of a text that is cut somewhere.

Owns: that the clusters of a text lie next to each other and cover it, what a cut at any offset
leaves of the clusters before it, and that behind a cut at a boundary nothing changes.

Before a cut the automaton runs as it did and stops earlier. Behind a cut it begins afresh, which
goes unnoticed only where a cluster begins.

Does not own: cursors.
-/

namespace TextCursor

/-- Clusters that are not empty, lie next to each other and cover the text. -/
structure Tiles (text : Text) (tiles : List Cluster) : Prop where
  ne_nil : ∀ cluster ∈ tiles, cluster.text ≠ []
  flatten : (tiles.map Cluster.text).flatten = text
  offset : ∀ index cluster, tiles[index]? = some cluster →
    cluster.offset = ((tiles.take index).map Cluster.text).flatten.length

namespace Cluster

variable (cut : Nat) (cluster : Cluster)

/-- The cut goes through the cluster. -/
def IsCutAt : Prop := cluster.offset < cut ∧ cut < cluster.stop

instance : Decidable (cluster.IsCutAt cut) := by
  unfold IsCutAt
  infer_instance

/-- The part of the cluster before a cut. -/
def upTo : Cluster := ⟨cluster.text.take (cut - cluster.offset), cluster.offset⟩

/-- The cluster of a text that is itself a part of a longer one, from `start` of that on. -/
def shifted (start : Nat) : Cluster := ⟨cluster.text, start + cluster.offset⟩

end Cluster

/-! ## Rows of clusters -/

section Rows

variable {offset : Nat} {pieces : List Text} {cluster : Cluster}

theorem clustersAt_append (offset : Nat) (left right : List Text) :
    clustersAt offset (left ++ right) =
      clustersAt offset left ++ clustersAt (offset + left.flatten.length) right := by
  induction left generalizing offset with
  | nil => rfl
  | cons piece later inductionHypothesis =>
      simp only [List.cons_append, clustersAt, inductionHypothesis, List.flatten_cons,
        List.length_append, Nat.add_assoc]

theorem map_shifted_clustersAt (start offset : Nat) (pieces : List Text) :
    (clustersAt offset pieces).map (·.shifted start) = clustersAt (start + offset) pieces := by
  induction pieces generalizing offset with
  | nil => rfl
  | cons piece later inductionHypothesis =>
      rw [clustersAt, List.map_cons, inductionHypothesis, clustersAt, Nat.add_assoc]
      rfl

/-- Each cluster of a row lies between the ends of the row. -/
theorem bounds_of_mem_clustersAt (filled : ∀ piece ∈ pieces, piece ≠ [])
    (member : cluster ∈ clustersAt offset pieces) :
    offset ≤ cluster.offset ∧ cluster.offset < cluster.stop ∧
      cluster.stop ≤ offset + pieces.flatten.length := by
  induction pieces generalizing offset with
  | nil => contradiction
  | cons piece later inductionHypothesis =>
      have positive := List.length_pos_iff.mpr (filled piece List.mem_cons_self)
      rw [List.flatten_cons, List.length_append]
      rcases List.mem_cons.mp member with rfl | inLater
      · exact ⟨Nat.le_refl _, Nat.lt_add_of_pos_right positive,
          Nat.add_le_add_left (Nat.le_add_right _ _) _⟩
      · have laterFilled := fun other inPieces => filled other (List.mem_cons_of_mem piece inPieces)
        obtain ⟨begins, extent, ends⟩ := inductionHypothesis laterFilled inLater
        exact ⟨by omega, extent, by omega⟩

end Rows

/-! ## Cut off before an offset -/

namespace Grapheme

/-- The pieces as far as a number of code points reaches; the last one may be cut short. -/
def piecesUpTo : Nat → List Text → List Text
  | _, [] => []
  | 0, _ :: _ => []
  | count + 1, piece :: later =>
      piece.take (count + 1) :: piecesUpTo (count + 1 - piece.length) later

theorem piecesUpTo_zero (pieces : List Text) : piecesUpTo 0 pieces = [] := by
  cases pieces with
  | nil => rfl
  | cons piece later => rfl

/-- The automaton has no foresight. -/
theorem divide_take (context : Context) (text : Text) (count : Nat) :
    divide context (text.take count) =
      ((divide context text).1.take count,
        piecesUpTo (count - (divide context text).1.length) (divide context text).2) := by
  induction text generalizing context count with
  | nil => simp [divide, piecesUpTo]
  | cons c rest inductionHypothesis =>
      cases count with
      | zero => simp [divide, piecesUpTo_zero]
      | succ count =>
          rw [List.take_succ_cons, divide, divide]
          split
          next =>
            rw [inductionHypothesis, List.take_succ_cons, List.length_cons, Nat.add_sub_add_right]
          next =>
            rw [inductionHypothesis, List.take_nil, List.length_nil, Nat.sub_zero, piecesUpTo,
              List.take_succ_cons, List.length_cons, Nat.add_sub_add_right]

end Grapheme

open Grapheme

theorem clusterTexts_take (text : Text) (count : Nat) :
    clusterTexts (text.take count) = piecesUpTo count (clusterTexts text) := by
  cases text with
  | nil => simp [clusterTexts, piecesUpTo]
  | cons c rest =>
      cases count with
      | zero => rfl
      | succ count =>
          rw [List.take_succ_cons, clusterTexts, clusterTexts, divide_take, piecesUpTo,
            List.take_succ_cons, List.length_cons, Nat.add_sub_add_right]

/-- Nothing of a row lies before an offset at or before its beginning. -/
theorem clustersAt_of_le {offset cut : Nat} {pieces : List Text} (before : cut ≤ offset)
    (filled : ∀ piece ∈ pieces, piece ≠ []) :
    (clustersAt offset pieces).filter (fun cluster => cluster.stop ≤ cut) = [] ∧
      (clustersAt offset pieces).find? (fun cluster => cluster.IsCutAt cut) = none := by
  constructor
  · rw [List.filter_eq_nil_iff]
    intro cluster member
    have bounds := bounds_of_mem_clustersAt filled member
    rw [decide_eq_true_iff]
    omega
  · rw [List.find?_eq_none]
    intro cluster member
    have bounds := bounds_of_mem_clustersAt filled member
    rw [decide_eq_true_iff, Cluster.IsCutAt]
    omega

/-- What a cut leaves of a row: the clusters that end before it, and a part of the one that it goes
through. -/
theorem clustersAt_piecesUpTo {offset count cut : Nat} {pieces : List Text}
    (cutEq : cut = offset + count) (filled : ∀ piece ∈ pieces, piece ≠ []) :
    clustersAt offset (piecesUpTo count pieces) =
      (clustersAt offset pieces).filter (fun cluster => cluster.stop ≤ cut) ++
        ((clustersAt offset pieces).find? fun cluster => cluster.IsCutAt cut).toList.map
          (Cluster.upTo cut) := by
  induction pieces generalizing offset count with
  | nil => simp [piecesUpTo, clustersAt]
  | cons piece later inductionHypothesis =>
      have laterFilled := fun other inPieces => filled other (List.mem_cons_of_mem piece inPieces)
      cases count with
      | zero =>
          obtain ⟨noneWhole, uncut⟩ := clustersAt_of_le (Nat.le_of_eq cutEq : cut ≤ offset) filled
          rw [noneWhole, uncut, piecesUpTo_zero]
          rfl
      | succ count =>
          rw [piecesUpTo, clustersAt, clustersAt]
          by_cases whole : piece.length ≤ count + 1
          · have ends : (⟨piece, offset⟩ : Cluster).stop ≤ cut := by
              show offset + piece.length ≤ cut
              omega
            have uncut : ¬(⟨piece, offset⟩ : Cluster).IsCutAt cut := fun through =>
              Nat.not_lt_of_le ends through.2
            have further : cut = offset + piece.length + (count + 1 - piece.length) := by omega
            rw [List.take_of_length_le whole, inductionHypothesis further laterFilled]
            simp only [List.filter_cons, List.find?_cons, ends, uncut, decide_true, decide_false,
              if_true, List.cons_append]
          · have endsLater : ¬(⟨piece, offset⟩ : Cluster).stop ≤ cut := by
              show ¬offset + piece.length ≤ cut
              omega
            have through : (⟨piece, offset⟩ : Cluster).IsCutAt cut :=
              ⟨by show offset < cut; omega, Nat.lt_of_not_le endsLater⟩
            have nothingLeft : count + 1 - piece.length = 0 := by omega
            have upTo : (⟨piece, offset⟩ : Cluster).upTo cut =
                ⟨piece.take (count + 1), offset⟩ := by
              rw [Cluster.upTo, cutEq, Nat.add_sub_cancel_left]
            have within : cut ≤ offset + piece.length := by omega
            have noneWhole := (clustersAt_of_le within laterFilled).1
            simp only [List.filter_cons, List.find?_cons, endsLater, through, decide_true,
              decide_false, Bool.false_eq_true, if_false, noneWhole, Option.toList_some,
              List.map_singleton, upTo, nothingLeft, piecesUpTo_zero]
            rfl

/-! ## Cut off behind a boundary -/

section Boundaries

variable {text : Text} {cut : Nat}

/-- A boundary parts the clusters. -/
theorem exists_split_of_isBoundary (boundary : IsBoundary text cut) :
    ∃ left right, clusterTexts text = left ++ right ∧ left.flatten.length = cut ∧
      clusters text = clustersAt 0 left ++ clustersAt cut right := by
  obtain ⟨left, right, split, rfl⟩ := isBoundary_iff.mp boundary
  refine ⟨left, right, split, rfl, ?_⟩
  rw [clusters, split, clustersAt_append, Nat.zero_add]

/-- The boundaries are the end of the text and the offsets of its clusters. -/
theorem isBoundary_iff_offset :
    IsBoundary text cut ↔ cut = text.length ∨ ∃ cluster ∈ clusters text, cluster.offset = cut := by
  constructor
  · intro boundary
    obtain ⟨left, right, split, rfl, row⟩ := exists_split_of_isBoundary boundary
    cases right with
    | nil =>
        left
        rw [← flatten_clusterTexts text, split, List.append_nil]
    | cons piece later =>
        right
        refine ⟨⟨piece, left.flatten.length⟩, ?_, rfl⟩
        rw [row]
        exact List.mem_append_right _ List.mem_cons_self
  · rintro (rfl | ⟨cluster, member, rfl⟩)
    · exact Or.inr (Or.inl rfl)
    · obtain ⟨index, isCluster⟩ := List.getElem?_of_mem member
      rw [(bounds_of_getElem?_clusters isCluster).1]
      exact isBoundary_iff.mpr ⟨_, _, (List.take_append_drop index _).symm, rfl⟩

theorem map_shifted_clusters_drop (boundary : IsBoundary text cut) :
    (clusters (text.drop cut)).map (·.shifted cut) =
      (clusters text).filter fun cluster => cut ≤ cluster.offset := by
  obtain ⟨left, right, split, width, row⟩ := exists_split_of_isBoundary boundary
  have filled : ∀ piece ∈ left ++ right, piece ≠ [] := by
    intro piece member
    rw [← split] at member
    exact ne_nil_of_mem_clusterTexts member
  have leftFilled := fun piece member => filled piece (List.mem_append_left right member)
  have rightFilled := fun piece member => filled piece (List.mem_append_right left member)
  have behind : text.drop cut = right.flatten := by
    rw [← flatten_clusterTexts text, split, List.flatten_append, ← width, List.drop_left]
  have before : (clustersAt 0 left).filter (fun cluster => cut ≤ cluster.offset) = [] := by
    rw [List.filter_eq_nil_iff]
    intro cluster member
    have bounds := bounds_of_mem_clustersAt leftFilled member
    rw [decide_eq_true_iff]
    omega
  have kept : (clustersAt cut right).filter (fun cluster => cut ≤ cluster.offset) =
      clustersAt cut right := by
    rw [List.filter_eq_self]
    intro cluster member
    exact decide_eq_true (bounds_of_mem_clustersAt rightFilled member).1
  rw [behind, clusters, clusterTexts_flatten_right split, map_shifted_clustersAt, row,
    List.filter_append, before, kept]
  rfl

end Boundaries

theorem tiles_clusters (text : Text) : Tiles text (clusters text) where
  ne_nil cluster member := by
    have inTexts := List.mem_map_of_mem (f := Cluster.text) member
    rw [map_text_clusters] at inTexts
    exact ne_nil_of_mem_clusterTexts inTexts
  flatten := by rw [map_text_clusters, flatten_clusterTexts]
  offset index cluster isCluster := by
    rw [(bounds_of_getElem?_clusters isCluster).1, List.map_take, map_text_clusters]
    rfl

/-- The clusters of a text cover it one after another, and are the pieces that the boundary rules
call for. Of a text that is cut off at any offset the clusters before the cut are the same, and at
most one more is cut short. Of a text from a boundary on they are those from there on. -/
theorem clusters_stable (text : Text) :
    Tiles text (clusters text) ∧
      (clusters text).map Cluster.text = clusterTexts text ∧
      IsDivision text (clusterTexts text) ∧
      (∀ cut, IsBoundary text cut ↔
        cut = text.length ∨ ∃ cluster ∈ clusters text, cluster.offset = cut) ∧
      (∀ cut, clusters (text.take cut) =
        (clusters text).filter (fun cluster => cluster.stop ≤ cut) ++
          ((clusters text).find? fun cluster => cluster.IsCutAt cut).toList.map
            (Cluster.upTo cut)) ∧
      ∀ cut, IsBoundary text cut →
        (clusters (text.drop cut)).map (·.shifted cut) =
          (clusters text).filter fun cluster => cut ≤ cluster.offset := by
  refine ⟨tiles_clusters text, map_text_clusters text, isDivision_clusterTexts text,
    fun cut => isBoundary_iff_offset, ?_, fun cut => map_shifted_clusters_drop⟩
  intro cut
  rw [clusters, clusterTexts_take]
  exact clustersAt_piecesUpTo (Nat.zero_add cut).symm fun _ => ne_nil_of_mem_clusterTexts

/-- A cut through a flag leaves half of it. Behind the first flag the second one stays together,
because the number of halves before it is even. -/
theorem clusters_stable_between_flags :
    let text : Text := "e\u0301🇩🇪🇫🇷".toList
    Grapheme.IsBoundary text 4 ∧
      (clusters (text.drop 4)).map (·.shifted 4) = [⟨"🇫🇷".toList, 4⟩] ∧
      clusters (text.take 3) = [⟨"e\u0301".toList, 0⟩, ⟨"🇩".toList, 2⟩] := by
  intro text
  have boundary : Grapheme.IsBoundary text 4 := by decide +kernel
  have behind : (clusters text).filter (fun cluster => 4 ≤ cluster.offset) =
      [⟨"🇫🇷".toList, 4⟩] := by decide +kernel
  have before : (clusters text).filter (fun cluster => cluster.stop ≤ 3) =
      [⟨"e\u0301".toList, 0⟩] := by decide +kernel
  have through : (clusters text).find? (fun cluster => cluster.IsCutAt 3) =
      some ⟨"🇩🇪".toList, 2⟩ := by decide +kernel
  obtain ⟨-, -, -, -, cutOff, fromBoundary⟩ := clusters_stable text
  have front := cutOff 3
  rw [before, through] at front
  exact ⟨boundary, (fromBoundary 4 boundary).trans behind, front⟩

end TextCursor
