import TextCursor.Grapheme.Context
import TextCursor.Text.Basic

/-!
Contract: the division of a text into extended grapheme clusters.

Owns: the texts of the clusters, and clusters with their offsets. A text is divided on its own,
without regard to any text around it. Nothing is lost or added (`flatten_clusterTexts`) and no
cluster is empty (`ne_nil_of_mem_clusterTexts`).

Does not own: the rules that say where a boundary is.
-/

namespace TextCursor

namespace Grapheme

/-- The rest of the current cluster, and the clusters that follow it. -/
def divide (context : Context) : Text → Text × List Text
  | [] => ([], [])
  | c :: rest =>
      let next := BreakClass.ofChar c
      if context.joins next then
        let division := divide (context.extend next) rest
        (c :: division.1, division.2)
      else
        let division := divide (.start next) rest
        ([], (c :: division.1) :: division.2)

theorem flatten_divide (context : Context) (text : Text) :
    (divide context text).1 ++ (divide context text).2.flatten = text := by
  induction text generalizing context with
  | nil => rfl
  | cons c rest inductionHypothesis =>
      simp only [divide]
      split
      · simpa using inductionHypothesis (context.extend (.ofChar c))
      · simpa using inductionHypothesis (.start (.ofChar c))

theorem ne_nil_of_mem_divide (context : Context) (text : Text) {piece : Text}
    (member : piece ∈ (divide context text).2) : piece ≠ [] := by
  induction text generalizing context with
  | nil => simp [divide] at member
  | cons c rest inductionHypothesis =>
      simp only [divide] at member
      split at member
      · exact inductionHypothesis _ member
      · rcases List.mem_cons.mp member with equal | later
        · simp [equal]
        · exact inductionHypothesis _ later

end Grapheme

/-- The texts of the extended grapheme clusters of a text, in order. -/
def clusterTexts : Text → List Text
  | [] => []
  | c :: rest =>
      let division := Grapheme.divide (.start (.ofChar c)) rest
      (c :: division.1) :: division.2

theorem flatten_clusterTexts (text : Text) : (clusterTexts text).flatten = text := by
  cases text with
  | nil => rfl
  | cons c rest =>
      simpa [clusterTexts] using Grapheme.flatten_divide (.start (.ofChar c)) rest

theorem ne_nil_of_mem_clusterTexts {text piece : Text} (member : piece ∈ clusterTexts text) :
    piece ≠ [] := by
  cases text with
  | nil => simp [clusterTexts] at member
  | cons c rest =>
      rcases List.mem_cons.mp member with equal | later
      · simp [equal]
      · exact Grapheme.ne_nil_of_mem_divide _ _ later

/-- A cluster, and its offset in the text it was cut from. -/
structure Cluster where
  text : Text
  offset : Nat
deriving DecidableEq, Repr

def Cluster.stop (cluster : Cluster) : Nat := cluster.offset + cluster.text.length

/-- Texts that follow each other, the first of them at `offset`. -/
def clustersAt (offset : Nat) : List Text → List Cluster
  | [] => []
  | text :: later => ⟨text, offset⟩ :: clustersAt (offset + text.length) later

@[simp] theorem map_text_clustersAt (offset : Nat) (texts : List Text) :
    (clustersAt offset texts).map Cluster.text = texts := by
  induction texts generalizing offset with
  | nil => rfl
  | cons text later inductionHypothesis => simp [clustersAt, inductionHypothesis]

def clusters (text : Text) : List Cluster := clustersAt 0 (clusterTexts text)

end TextCursor
