import TextCursor.Proofs.Grapheme.Division

/-!
Contract: the offsets at which the clusters of a text begin and end.

Owns: the offset after a number of clusters, the text and the clusters on its two sides, and the
list of clusters read by index.
-/

namespace TextCursor

/-- The offset at which the first `count` clusters of a text end. -/
def clusterOffset (text : Text) (count : Nat) : Nat :=
  ((clusterTexts text).take count).flatten.length

section ClusterOffset

variable (text : Text) (count : Nat)

theorem flatten_take_append_flatten_drop :
    ((clusterTexts text).take count).flatten ++ ((clusterTexts text).drop count).flatten = text := by
  rw [← List.flatten_append, List.take_append_drop, flatten_clusterTexts]

theorem clusterOffset_le : clusterOffset text count ≤ text.length := by
  have whole := congrArg List.length (flatten_take_append_flatten_drop text count)
  rw [List.length_append] at whole
  unfold clusterOffset
  omega

@[simp] theorem clusterOffset_zero : clusterOffset text 0 = 0 := rfl

variable {text count}

/-- No more clusters are left. -/
theorem clusterOffset_of_length_le (all : (clusterTexts text).length ≤ count) :
    clusterOffset text count = text.length := by
  rw [clusterOffset, List.take_of_length_le all, flatten_clusterTexts]

theorem clusterOffset_of_prefix {front : List Text} (begins : front <+: clusterTexts text) :
    clusterOffset text front.length = front.flatten.length := by
  rw [clusterOffset, ← List.prefix_iff_eq_take.mp begins]

theorem clusterOffset_mono {fewer : Nat} (le : fewer ≤ count) :
    clusterOffset text fewer ≤ clusterOffset text count := by
  obtain ⟨later, taken⟩ : (clusterTexts text).take fewer <+: (clusterTexts text).take count :=
    List.take_prefix_take_left le
  rw [clusterOffset, clusterOffset, ← taken, List.flatten_append, List.length_append]
  omega

theorem clusterOffset_succ (inRange : count < (clusterTexts text).length) :
    clusterOffset text (count + 1) =
      clusterOffset text count + (clusterTexts text)[count].length := by
  rw [clusterOffset, List.take_succ_eq_append_getElem inRange]
  simp only [List.flatten_append, List.length_append, List.flatten_cons, List.flatten_nil,
    List.append_nil, clusterOffset]

variable (text count)

theorem take_clusterOffset :
    text.take (clusterOffset text count) = ((clusterTexts text).take count).flatten := by
  have whole := flatten_take_append_flatten_drop text count
  exact (congrArg (List.take _) whole.symm).trans (List.take_left' rfl)

theorem drop_clusterOffset :
    text.drop (clusterOffset text count) = ((clusterTexts text).drop count).flatten := by
  have whole := flatten_take_append_flatten_drop text count
  exact (congrArg (List.drop _) whole.symm).trans (List.drop_left' rfl)

/-- The clusters before a boundary, divided on their own. -/
theorem clusterTexts_take_clusterOffset :
    clusterTexts (text.take (clusterOffset text count)) = (clusterTexts text).take count := by
  rw [take_clusterOffset]
  exact clusterTexts_flatten_left (List.take_append_drop count _).symm

/-- The clusters behind a boundary, divided on their own. -/
theorem clusterTexts_drop_clusterOffset :
    clusterTexts (text.drop (clusterOffset text count)) = (clusterTexts text).drop count := by
  rw [drop_clusterOffset]
  exact clusterTexts_flatten_right (List.take_append_drop count _).symm

end ClusterOffset

theorem length_le_length_flatten (pieces : List Text) (filled : ∀ piece ∈ pieces, piece ≠ []) :
    pieces.length ≤ pieces.flatten.length := by
  induction pieces with
  | nil => exact Nat.le_refl 0
  | cons piece later inductionHypothesis =>
      have first := List.length_pos_iff.mpr (filled piece List.mem_cons_self)
      have rest := inductionHypothesis fun other member => filled other (List.mem_cons_of_mem _ member)
      rw [List.flatten_cons, List.length_append, List.length_cons]
      omega

/-- A text has no more clusters than code points. -/
theorem length_clusterTexts_le (text : Text) : (clusterTexts text).length ≤ text.length := by
  have fewer := length_le_length_flatten (clusterTexts text) fun _ => ne_nil_of_mem_clusterTexts
  rwa [flatten_clusterTexts] at fewer

/-! ## Clusters by index -/

theorem getElem?_clustersAt (offset : Nat) (texts : List Text) (index : Nat) :
    (clustersAt offset texts)[index]? =
      texts[index]?.map fun text => ⟨text, offset + (texts.take index).flatten.length⟩ := by
  induction texts generalizing offset index with
  | nil => simp [clustersAt]
  | cons text later inductionHypothesis =>
      cases index with
      | zero => simp [clustersAt]
      | succ index => simp [clustersAt, inductionHypothesis, Nat.add_assoc]

theorem map_text_clusters (text : Text) : (clusters text).map Cluster.text = clusterTexts text :=
  map_text_clustersAt 0 _

theorem length_clusters (text : Text) : (clusters text).length = (clusterTexts text).length := by
  rw [← List.length_map Cluster.text, map_text_clusters]

theorem getElem?_clusters (text : Text) (index : Nat) :
    (clusters text)[index]? =
      (clusterTexts text)[index]?.map fun cluster => ⟨cluster, clusterOffset text index⟩ := by
  simp [clusters, getElem?_clustersAt, clusterOffset]

/-- Each cluster lies between two boundaries. -/
theorem bounds_of_getElem?_clusters {text : Text} {index : Nat} {cluster : Cluster}
    (isCluster : (clusters text)[index]? = some cluster) :
    cluster.offset = clusterOffset text index ∧ cluster.stop = clusterOffset text (index + 1) := by
  rw [getElem?_clusters, Option.map_eq_some_iff] at isCluster
  obtain ⟨piece, isPiece, rfl⟩ := isCluster
  obtain ⟨inRange, rfl⟩ := List.getElem?_eq_some_iff.mp isPiece
  exact ⟨rfl, (clusterOffset_succ inRange).symm⟩

end TextCursor
