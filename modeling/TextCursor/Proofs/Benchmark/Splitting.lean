import TextCursor.Proofs.Benchmark.Rounds
import TextCursor.Proofs.Cursor.Field

/-!
Contract: splitting a text by removing one field after another.

Owns: that the loop ends, and that the removed fields are those of the list of clusters, cut once.

Does not own: the fields of a list, and what one removal yields.
-/

namespace TextCursor.Benchmark

open Edit Cursor

/-! ## Fields -/

/-- The pieces that the rounds removed, in order. -/
def pieces (rounds : List (Round Cursor)) : List Cursor := rounds.map Round.yielded

/-- The rounds remove these fields, each of them as a sound cursor. -/
structure Removes (rounds : List (Round Cursor)) (fields : List (List Text)) : Prop where
  sound : ∀ piece ∈ pieces rounds, piece.Sound
  texts : (pieces rounds).map (fun piece => TextCursor.clusterTexts piece.content) = fields

theorem Removes.nil : Removes [] [] := ⟨by simp [pieces], rfl⟩

theorem Removes.cons {piece : Cursor} {text : Text} {later : List (Round Cursor)}
    {fields : List (List Text)} (rest : Cursor) (holds : piece.Holds text)
    (removes : Removes later fields) :
    Removes (⟨piece, rest⟩ :: later) (TextCursor.clusterTexts text :: fields) := by
  constructor
  · intro other member
    rcases List.mem_cons.mp member with equal | inLater
    · rw [equal]
      exact holds.toSound
    · exact removes.sound other inLater
  · show TextCursor.clusterTexts piece.content ::
      (pieces later).map (fun piece => TextCursor.clusterTexts piece.content) = _
    rw [holds.content, removes.texts]

theorem on_fieldRound {delimiter : Text} {cursor piece rest : Cursor}
    (popped : (popField delimiter).on cursor = (.ok piece, rest)) :
    (fieldRound delimiter).on cursor = (.ok ⟨piece, rest⟩, rest) := by
  simp only [fieldRound, on_bind, popped, on_get, on_pure]

/-- A window is empty if it has no clusters. -/
theorem size_eq_zero_iff {cursor : Cursor} (inside : cursor.Inside) :
    cursor.size = 0 ↔ TextCursor.clusterTexts cursor.content = [] := by
  rw [inside.size_eq]
  constructor
  · intro empty
    have nothing : cursor.content = [] := List.eq_nil_of_length_eq_zero (by omega)
    rw [nothing]
    rfl
  · intro nothing
    rw [← flatten_clusterTexts cursor.content, nothing]
    rfl

/-- The loop ends, and removes the fields of the list of clusters without an empty last one.
The induction follows the cuts of that list, since each round makes one. -/
theorem finishes_fieldRound {delimiter : Text}
    (nonempty : TextCursor.clusterTexts delimiter ≠ []) (clusters : List Text) :
    ∀ cursor : Cursor, cursor.Inside → TextCursor.clusterTexts cursor.content = clusters →
      ∃ rounds final, Finishes (fieldRound delimiter) cursor rounds final ∧
        rounds.length ≤ clusters.length ∧
        Removes rounds (withoutFinalEmpty (fields (TextCursor.clusterTexts delimiter) clusters)) := by
  induction clusters using cut_induction nonempty with
  | uncut clusters uncut =>
      intro cursor inside divided
      rw [fields_of_uncut nonempty uncut]
      subst divided
      by_cases empty : TextCursor.clusterTexts cursor.content = []
      · rw [empty]
        exact ⟨[], cursor, .idle ((size_eq_zero_iff inside).mpr empty), Nat.le_refl _, .nil⟩
      · have more : cursor.size ≠ 0 := mt (size_eq_zero_iff inside).mp empty
        have round := on_fieldRound (on_popField_of_uncut inside uncut)
        have kept : withoutFinalEmpty [TextCursor.clusterTexts cursor.content] =
            [TextCursor.clusterTexts cursor.content] := by simp [withoutFinalEmpty, empty]
        rw [kept]
        exact ⟨_, _, .turn more round (.idle rfl), List.length_pos_iff.mpr empty,
          .cons _ inside.holds_bare .nil⟩
  | cut clusters before after cut inductionHypothesis =>
      intro cursor inside divided
      subst divided
      have parts := append_of_cut?_eq_some cut
      have afterDivided := clusterTexts_flatten_right parts
      have beforeDivided := clusterTexts_flatten_left (parts.trans (List.append_assoc ..))
      obtain ⟨piece, rest, popped, pieceHolds, restHolds⟩ := on_popField_of_cut inside cut
      obtain ⟨later, final, finishes, few, removes⟩ := inductionHypothesis rest restHolds.inside
        (by rw [restHolds.content, afterDivided])
      have shorter : later.length + 1 ≤ (TextCursor.clusterTexts cursor.content).length := by
        have positive := List.length_pos_iff.mpr nonempty
        rw [parts]
        simp only [List.length_append]
        omega
      have more : cursor.size ≠ 0 := by
        intro empty
        rw [(size_eq_zero_iff inside).mp empty] at shorter
        contradiction
      have removesAll := removes.cons rest pieceHolds
      rw [beforeDivided] at removesAll
      rw [fields_of_cut nonempty cut, withoutFinalEmpty_cons (fields_ne_nil nonempty after)]
      exact ⟨_, final, .turn more (on_fieldRound popped) finishes, shorter, removesAll⟩

/-! ## The pieces together -/

/-- What the fields of a division amount to, as texts. -/
theorem flatten_intercalate (separator : List Text) (fields : List (List Text)) :
    (separator.intercalate fields).flatten =
      Text.joined separator.flatten (fields.map List.flatten) := by
  induction fields with
  | nil => rfl
  | cons field later inductionHypothesis =>
      by_cases single : later = []
      · rw [single]
        simp [Text.joined]
      · have more : later.map List.flatten ≠ [] := by simpa using single
        rw [List.intercalate_cons_of_ne_nil single, List.flatten_append, List.flatten_append,
          inductionHypothesis]
        exact (List.intercalate_cons_of_ne_nil more).symm

/-- The removed texts with the delimiter between neighbours are the text, except for a delimiter
at its end. -/
theorem Removes.joined_eq {delimiter text : Text} {rounds : List (Round Cursor)}
    (nonempty : TextCursor.clusterTexts delimiter ≠ [])
    (removes : Removes rounds (withoutFinalEmpty
      (fields (TextCursor.clusterTexts delimiter) (TextCursor.clusterTexts text)))) :
    Text.joined delimiter ((pieces rounds).map Cursor.content) = text ∨
      Text.joined delimiter ((pieces rounds).map Cursor.content) ++ delimiter = text := by
  have contents : (pieces rounds).map Cursor.content = (withoutFinalEmpty
      (fields (TextCursor.clusterTexts delimiter) (TextCursor.clusterTexts text))).map
        List.flatten := by
    rw [← removes.texts, List.map_map]
    apply List.map_congr_left
    intro piece _
    exact (flatten_clusterTexts piece.content).symm
  have joined := flatten_intercalate (TextCursor.clusterTexts delimiter) (withoutFinalEmpty
    (fields (TextCursor.clusterTexts delimiter) (TextCursor.clusterTexts text)))
  rw [flatten_clusterTexts, ← contents] at joined
  rw [← joined]
  rcases intercalate_withoutFinalEmpty (TextCursor.clusterTexts delimiter)
    (fields (TextCursor.clusterTexts delimiter) (TextCursor.clusterTexts text)) with all | lacking
  · left
    rw [all, intercalate_fields nonempty, flatten_clusterTexts]
  · right
    have texts := congrArg List.flatten lacking
    rwa [List.flatten_append, intercalate_fields nonempty, flatten_clusterTexts,
      flatten_clusterTexts] at texts

/-- The loop over the whole of a text ends with an empty window, the bound on its rounds is never
felt, and the pieces are the fields of the text's clusters: cut once from the left at the
delimiter's clusters, and without the empty field behind a delimiter at the end. -/
theorem splitFields_eq_fields (text : Text) {delimiter : Text} (nonempty : delimiter ≠ []) :
    ∃ rounds final,
      Finishes (fieldRound delimiter) { source := text, start := 0, size := text.length }
        rounds final ∧ final.size = 0 ∧
      splitFields delimiter text = .ok rounds ∧
      (pieces rounds).map listed = (withoutFinalEmpty
        (fields (TextCursor.clusterTexts delimiter) (TextCursor.clusterTexts text))).map .ok ∧
      (text = [] → rounds = []) ∧
      (Text.joined delimiter ((pieces rounds).map Cursor.content) = text ∨
        Text.joined delimiter ((pieces rounds).map Cursor.content) ++ delimiter = text) ∧
      ∀ piece ∈ pieces rounds,
        ¬TextCursor.clusterTexts delimiter <:+: TextCursor.clusterTexts piece.content := by
  have clustersNonempty : TextCursor.clusterTexts delimiter ≠ [] := by
    intro none
    apply nonempty
    rw [← flatten_clusterTexts delimiter, none]
    rfl
  have content := content_whole text
  obtain ⟨rounds, final, finishes, few, removes⟩ := finishes_fieldRound clustersNonempty
    (TextCursor.clusterTexts text) _ (inside_whole text) (by rw [content])
  refine ⟨rounds, final, finishes, finishes.size_eq_zero, ?_, ?_, ?_,
    removes.joined_eq clustersNonempty, ?_⟩
  · have enough : rounds.length ≤ text.length := Nat.le_trans few (length_clusterTexts_le text)
    have opened : Cursor.ofText text 0 none =
        .ok { source := text, start := 0, size := text.length } := by
      rw [Cursor.ofText, Option.getD_none, Int.sub_zero]
      exact make_of_inside (inside_whole text)
    rw [splitFields, onText, opened, ok_bind, finishes.whileNonEmpty_eq enough]
  · rw [← removes.texts, List.map_map]
    apply List.map_congr_left
    intro piece member
    exact listed_eq (removes.sound piece member).coherent
  · intro empty
    rw [empty] at few
    exact List.eq_nil_of_length_eq_zero (Nat.le_zero.mp few)
  · intro piece member
    have field : TextCursor.clusterTexts piece.content ∈ withoutFinalEmpty
        (fields (TextCursor.clusterTexts delimiter) (TextCursor.clusterTexts text)) := by
      rw [← removes.texts]
      exact List.mem_map_of_mem member
    exact not_infix_of_mem_fields clustersNonempty _ _ (mem_of_mem_withoutFinalEmpty field)

/-- A comma under an acute accent is no delimiter, and one at the end leaves no field behind. -/
theorem splitFields_accented_comma :
    (",".toList : Text) ≠ [] ∧ ∃ rounds final,
      Finishes (fieldRound ",".toList) { source := "a,b,\u0301c,".toList, start := 0, size := 7 }
        rounds final ∧ final.size = 0 ∧
      splitFields ",".toList "a,b,\u0301c,".toList = .ok rounds ∧
      (pieces rounds).map listed =
        [.ok ["a".toList], .ok ["b".toList, ",\u0301".toList, "c".toList]] := by
  have nonempty : (",".toList : Text) ≠ [] := by decide
  have divided : withoutFinalEmpty (fields (TextCursor.clusterTexts ",".toList)
      (TextCursor.clusterTexts "a,b,\u0301c,".toList)) =
        [["a".toList], ["b".toList, ",\u0301".toList, "c".toList]] := by decide +kernel
  obtain ⟨rounds, final, finishes, empty, split, texts, -⟩ :=
    splitFields_eq_fields "a,b,\u0301c,".toList nonempty
  rw [divided] at texts
  exact ⟨nonempty, rounds, final, finishes, empty, split, texts⟩

end TextCursor.Benchmark
