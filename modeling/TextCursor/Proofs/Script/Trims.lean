import Mathlib.Data.List.DropRight
import TextCursor.Proofs.Script.Reachable

/-!
Contract: how the three ways to trim a window compare.

Owns: a list without what satisfies a condition at its ends; what each trim makes of the clusters
of a window; and that it does not matter at which end one begins.

A trim divides what an earlier one left anew. That a blank cluster at an end is still one cluster,
and a blank one, is due to the division of a part of a text.

Where all clusters are blank there is no text to tell the two ends of the window apart, and what is
left stands at the end that was trimmed last. A trim of both ends goes from the front to the back
but puts the empty window at the front.
-/

namespace TextCursor

/-! ## Both ends of a list -/

section Ends

variable {α : Type} (condition : α → Bool) (items : List α)

/-- The items without the longest runs at both ends that satisfy a condition. -/
def stripped : List α := (items.dropWhile condition).rdropWhile condition

variable {condition items}

theorem stripped_eq_nil_iff : stripped condition items = [] ↔ ∀ item ∈ items, condition item := by
  unfold stripped
  rw [List.rdropWhile_eq_nil_iff, ← List.dropWhile_eq_nil_iff, List.dropWhile_idempotent,
    List.dropWhile_eq_nil_iff]

theorem rdropWhile_append_of_ne_nil (left : List α) {right : List α}
    (filled : right.rdropWhile condition ≠ []) :
    (left ++ right).rdropWhile condition = left ++ right.rdropWhile condition := by
  unfold List.rdropWhile at filled ⊢
  have notEmpty : ¬(right.reverse.dropWhile condition).isEmpty := by
    rwa [List.isEmpty_iff, ← List.reverse_eq_nil_iff]
  rw [List.reverse_append, List.dropWhile_append, if_neg notEmpty, List.reverse_append,
    List.reverse_reverse]

/-- Without the run at the back there is the run at the front and then what is left of both. -/
theorem rdropWhile_eq_append (filled : stripped condition items ≠ []) :
    items.rdropWhile condition = items.takeWhile condition ++ stripped condition items := by
  have parted := rdropWhile_append_of_ne_nil (items.takeWhile condition) filled
  rwa [List.takeWhile_append_dropWhile] at parted

/-- What is left does not begin with such an item. -/
theorem dropWhile_stripped :
    (stripped condition items).dropWhile condition = stripped condition items := by
  rw [List.dropWhile_eq_self_iff]
  intro positive
  have begins : stripped condition items <+: items.dropWhile condition := List.rdropWhile_prefix _ _
  rw [begins.getElem positive]
  exact List.dropWhile_get_zero_not condition items _

theorem takeWhile_stripped : (stripped condition items).takeWhile condition = [] := by
  have parted := List.takeWhile_append_dropWhile (p := condition) (l := stripped condition items)
  rw [dropWhile_stripped] at parted
  exact List.append_left_eq_self.mp parted

/-- The run at the front is the same with and without the run at the back, unless they meet. -/
theorem takeWhile_rdropWhile (filled : stripped condition items ≠ []) :
    (items.rdropWhile condition).takeWhile condition = items.takeWhile condition := by
  rw [rdropWhile_eq_append filled, List.takeWhile_append_of_pos fun _ => List.mem_takeWhile_imp,
    takeWhile_stripped, List.append_nil]

/-- It makes no difference at which end one begins. -/
theorem dropWhile_rdropWhile :
    (items.rdropWhile condition).dropWhile condition = stripped condition items := by
  by_cases empty : stripped condition items = []
  · rw [List.rdropWhile_eq_nil_iff.mpr (stripped_eq_nil_iff.mp empty), empty, List.dropWhile_nil]
  · rw [rdropWhile_eq_append empty, List.dropWhile_append_of_pos fun _ => List.mem_takeWhile_imp,
      dropWhile_stripped]

theorem stripped_stripped : stripped condition (stripped condition items) =
    stripped condition items := by
  rw [stripped, dropWhile_stripped]
  exact List.rdropWhile_idempotent _ _

end Ends

namespace Cursor

open Edit

/-! ## Clusters at the ends of a text -/

section Blanks

variable (text : Text)

theorem leadingBlanks_eq :
    leadingBlanks text = ((TextCursor.clusterTexts text).takeWhile Text.holdsBlank).length := by
  rw [← map_text_clusters text, List.takeWhile_map, List.length_map,
    List.takeWhile_eq_take_findIdx_not, List.length_take, Nat.min_eq_left List.findIdx_le_length]
  rfl

theorem untilTrailingBlanks_eq :
    untilTrailingBlanks text =
      ((TextCursor.clusterTexts text).rdropWhile Text.holdsBlank).length := by
  rw [← map_text_clusters text, List.rdropWhile, ← List.map_reverse, List.dropWhile_map,
    List.length_reverse, List.length_map]
  rfl

theorem keptRange_eq :
    keptRange (TextCursor.clusters text) =
      (((TextCursor.clusterTexts text).takeWhile Text.holdsBlank).length,
        ((TextCursor.clusterTexts text).takeWhile Text.holdsBlank).length +
          (stripped Text.holdsBlank (TextCursor.clusterTexts text)).length) := by
  have later : (TextCursor.clusterTexts text).dropWhile Text.holdsBlank =
      ((TextCursor.clusters text).dropWhile isBlank).map Cluster.text := by
    rw [← map_text_clusters text, List.dropWhile_map]
    rfl
  have kept : (stripped Text.holdsBlank (TextCursor.clusterTexts text)).length =
      (((TextCursor.clusters text).dropWhile isBlank).reverse.dropWhile isBlank).length := by
    rw [stripped, later, List.rdropWhile, ← List.map_reverse, List.dropWhile_map,
      List.length_reverse, List.length_map]
    rfl
  have parted := congrArg List.length
    (List.takeWhile_append_dropWhile (p := Text.holdsBlank) (l := TextCursor.clusterTexts text))
  rw [List.length_append, later, List.length_map, ← length_clusters] at parted
  have first : (TextCursor.clusters text).length -
      ((TextCursor.clusters text).dropWhile isBlank).length =
        ((TextCursor.clusterTexts text).takeWhile Text.holdsBlank).length := by omega
  rw [kept, ← first]
  rfl

/-- A trim of both ends goes to where a trim of the back and then one of the front go to. -/
theorem trimmed_eq :
    trimmed text =
      ((((TextCursor.clusterTexts text).rdropWhile Text.holdsBlank).takeWhile
          Text.holdsBlank).flatten.length,
        (stripped Text.holdsBlank (TextCursor.clusterTexts text)).flatten.length) := by
  unfold trimmed
  rw [keptRange_eq]
  dsimp only
  by_cases empty : stripped Text.holdsBlank (TextCursor.clusterTexts text) = []
  · rw [List.rdropWhile_eq_nil_iff.mpr (stripped_eq_nil_iff.mp empty), empty, List.length_nil,
      Nat.add_zero, if_pos (Nat.le_refl _)]
    rfl
  · have positive := List.length_pos_iff.mpr empty
    have front := clusterOffset_of_prefix (List.takeWhile_prefix (l := TextCursor.clusterTexts text)
      Text.holdsBlank)
    have back := clusterOffset_of_prefix (List.rdropWhile_prefix Text.holdsBlank
      (TextCursor.clusterTexts text))
    rw [rdropWhile_eq_append empty, List.length_append, List.flatten_append,
      List.length_append] at back
    rw [takeWhile_rdropWhile empty, if_neg (by omega), front, back, Nat.add_sub_cancel_left]

end Blanks

/-! ## Windows by their clusters -/

/-- A sound cursor whose window consists of given clusters. -/
structure Consists (cursor : Cursor) (graphemes : List Text) : Prop extends cursor.Sound where
  clusters : TextCursor.clusterTexts cursor.content = graphemes

theorem part_part (cursor : Cursor) (offset size inner width : Nat) :
    (cursor.part offset size).part inner width = cursor.part (offset + inner) width := by
  unfold part
  rw [Int.natCast_add, Int.add_assoc]

/-- The cursor that the move past leading blanks leaves. -/
def skipped (cursor : Cursor) : Except Error Cursor :=
  (skipBlanks.on cursor).1.map fun _ => (skipBlanks.on cursor).2

/-- The new cursor that a trim of both ends yields. -/
def trimmedBoth (cursor : Cursor) : Except Error Cursor := (trim.on cursor).1

namespace Consists

variable {cursor : Cursor} {graphemes : List Text}

theorem content (consists : cursor.Consists graphemes) : cursor.content = graphemes.flatten := by
  rw [← consists.clusters, flatten_clusterTexts]

/-- Some of the clusters, divided on their own. -/
theorem part (front back : List Text) {middle : List Text}
    (consists : cursor.Consists (front ++ middle ++ back)) :
    (cursor.part front.flatten.length middle.flatten.length).Consists middle := by
  have whole := consists.content
  rw [List.flatten_append, List.flatten_append] at whole
  have fits : front.flatten.length + middle.flatten.length ≤ cursor.content.length := by
    rw [whole, List.length_append, List.length_append]
    exact Nat.le_add_right _ _
  have content := consists.inside.content_part fits
  rw [whole, List.append_assoc, List.drop_left, List.take_left] at content
  have parted := consists.clusters
  rw [consists.content] at parted
  have clusters : TextCursor.clusterTexts middle.flatten = middle := by
    rw [List.append_assoc] at parted
    exact clusterTexts_flatten_left (clusterTexts_flatten_right parted)
  refine ⟨consists.inside.sound_part fits, ?_⟩
  rw [content, clusters]

theorem copy (consists : cursor.Consists graphemes) :
    cursor.copy = .ok cursor.bare ∧ cursor.bare.Consists graphemes :=
  ⟨consists.inside.copy, ⟨consists.inside, cursor.coherent_bare⟩, consists.clusters⟩

theorem skipped_eq (consists : cursor.Consists graphemes) :
    cursor.skipped = .ok (cursor.part (graphemes.takeWhile Text.holdsBlank).flatten.length
      (graphemes.dropWhile Text.holdsBlank).flatten.length) := by
  have mirrored := (skipBlanks_mirrors cursor consists.coherent).1
  rw [on_skipBlanks consists.inside, leadingBlanks_eq,
    clusterOffset_of_prefix (List.takeWhile_prefix _), consists.clusters] at mirrored
  obtain ⟨result, left⟩ := Prod.mk.inj mirrored
  -- The move leaves nothing remembered.
  have forgets : (skipBlanks.on cursor).2.bare = (skipBlanks.on cursor).2 := by
    simp only [skipBlanks, on_bind, on_clusters consists.coherent, on_get, moveTo, on_modify]
    rfl
  have rest : cursor.content.length - (graphemes.takeWhile Text.holdsBlank).flatten.length =
      (graphemes.dropWhile Text.holdsBlank).flatten.length := by
    have parted := congrArg (fun pieces => pieces.flatten.length)
      (List.takeWhile_append_dropWhile (p := Text.holdsBlank) (l := graphemes))
    simp only [List.flatten_append, List.length_append] at parted
    rw [consists.content]
    omega
  rw [skipped, ← result, ← forgets, ← left, rest]
  rfl

theorem trimBack_eq (consists : cursor.Consists graphemes) :
    cursor.trimBack =
      .ok (cursor.part 0 (graphemes.rdropWhile Text.holdsBlank).flatten.length) := by
  rw [Cursor.trimBack_eq consists.inside, untilTrailingBlanks_eq,
    clusterOffset_of_prefix (List.rdropWhile_prefix _ _), consists.clusters]

theorem trimmedBoth_eq (consists : cursor.Consists graphemes) :
    cursor.trimmedBoth = .ok (cursor.part
      ((graphemes.rdropWhile Text.holdsBlank).takeWhile Text.holdsBlank).flatten.length
      (stripped Text.holdsBlank graphemes).flatten.length) := by
  have mirrored := (trim_mirrors cursor consists.coherent).1
  rw [on_trim consists.inside, trimmed_eq, consists.clusters] at mirrored
  exact (congrArg Prod.fst mirrored).symm

end Consists

/-- A way to trim does to the clusters of a window what an operation on lists does. -/
def TrimsAs (trim : Cursor → Except Error Cursor) (strip : List Text → List Text) : Prop :=
  ∀ cursor graphemes, cursor.Consists graphemes →
    ∃ left, trim cursor = .ok left ∧ left.Consists (strip graphemes)

theorem skipped_trimsAs : TrimsAs skipped (List.dropWhile Text.holdsBlank) := by
  intro cursor graphemes consists
  refine ⟨_, consists.skipped_eq, .part (graphemes.takeWhile Text.holdsBlank) [] ?_⟩
  rwa [List.append_nil, List.takeWhile_append_dropWhile]

theorem trimBack_trimsAs : TrimsAs trimBack (List.rdropWhile Text.holdsBlank) := by
  intro cursor graphemes consists
  refine ⟨_, consists.trimBack_eq, .part [] (graphemes.rtakeWhile Text.holdsBlank) ?_⟩
  rwa [List.nil_append, List.rdropWhile_append_rtakeWhile]

theorem trimmedBoth_trimsAs : TrimsAs trimmedBoth (stripped Text.holdsBlank) := by
  intro cursor graphemes consists
  refine ⟨_, consists.trimmedBoth_eq, .part _ (graphemes.rtakeWhile Text.holdsBlank) ?_⟩
  rwa [← dropWhile_rdropWhile, List.takeWhile_append_dropWhile, List.rdropWhile_append_rtakeWhile]

/-- Trimmed once more, the window still reads the same. -/
def Settles (trim : Cursor → Except Error Cursor) (cursor : Cursor) : Prop :=
  ∃ once twice, trim cursor = .ok once ∧ trim once = .ok twice ∧ twice.content = once.content

theorem TrimsAs.settles {trim : Cursor → Except Error Cursor} {strip : List Text → List Text}
    (trims : TrimsAs trim strip)
    (idempotent : ∀ graphemes, strip (strip graphemes) = strip graphemes)
    {cursor : Cursor} {graphemes : List Text} (consists : cursor.Consists graphemes) :
    Settles trim cursor := by
  obtain ⟨once, trimmedOnce, onceConsists⟩ := trims cursor graphemes consists
  obtain ⟨twice, trimmedTwice, twiceConsists⟩ := trims once _ onceConsists
  refine ⟨once, twice, trimmedOnce, trimmedTwice, ?_⟩
  rw [twiceConsists.content, idempotent, onceConsists.content]

namespace Consists

variable {cursor : Cursor} {graphemes : List Text}

/-- First the back, then the front: this is a trim of both ends. -/
theorem trimBack_skipped (consists : cursor.Consists graphemes) :
    (cursor.trimBack >>= skipped) = cursor.trimmedBoth := by
  obtain ⟨left, trimmed, leftConsists⟩ := trimBack_trimsAs cursor graphemes consists
  obtain rfl := Except.ok.inj (trimmed.symm.trans consists.trimBack_eq)
  rw [trimmed, consists.trimmedBoth_eq, ok_bind, leftConsists.skipped_eq, dropWhile_rdropWhile,
    part_part, Nat.zero_add]

/-- First the front, then the back, on a copy. -/
theorem copy_skipped_trimBack (consists : cursor.Consists graphemes) :
    ∃ left, (cursor.copy >>= skipped >>= trimBack) = .ok left ∧
      left.Consists (stripped Text.holdsBlank graphemes) ∧
      left = cursor.part (graphemes.takeWhile Text.holdsBlank).flatten.length
        (stripped Text.holdsBlank graphemes).flatten.length := by
  obtain ⟨copied, copyConsists⟩ := consists.copy
  obtain ⟨middle, skipped, middleConsists⟩ := skipped_trimsAs cursor.bare graphemes copyConsists
  obtain ⟨left, trimmed, leftConsists⟩ := trimBack_trimsAs middle _ middleConsists
  refine ⟨left, ?_, leftConsists, ?_⟩
  · rw [copied, ok_bind, skipped, ok_bind, trimmed]
  · obtain rfl := Except.ok.inj (skipped.symm.trans copyConsists.skipped_eq)
    obtain rfl := Except.ok.inj (trimmed.symm.trans middleConsists.trimBack_eq)
    rw [part_part]
    rfl

end Consists

end Cursor

namespace Script

open Edit Cursor

/-- From any cursor that a script made, in whatever state, a trim of both ends keeps the clusters
between the blank ones at the front and at the back, and a trim of the back followed by one of the
front comes to the same window. In the other order, on a copy, it comes to the same text, and to the
same window too unless all clusters are blank. Once trimmed in any way, a window does not change its
text when it is trimmed again. The clusters are the pieces that the boundary rules call for. -/
theorem Reachable.trims_agree {cursor : Cursor} (reachable : Reachable cursor)
    {graphemes : List Text} (divides : Grapheme.IsDivision cursor.content graphemes) :
    (∃ piece, cursor.trimmedBoth = .ok piece ∧
      Grapheme.IsDivision piece.content (stripped Text.holdsBlank graphemes) ∧
      piece.listed = .ok (stripped Text.holdsBlank graphemes) ∧
      (cursor.trimBack >>= skipped) = .ok piece ∧
      ∃ other, (cursor.copy >>= skipped >>= trimBack) = .ok other ∧
        other.content = piece.content ∧
        ((∃ grapheme ∈ graphemes, ¬Text.holdsBlank grapheme) → other = piece) ∧
        ((∀ grapheme ∈ graphemes, Text.holdsBlank grapheme) →
          piece = cursor.windowAt cursor.start 0 ∧
            other = cursor.windowAt (cursor.start + cursor.size) 0)) ∧
      Settles trimmedBoth cursor ∧ Settles skipped cursor ∧ Settles trimBack cursor := by
  have consists : cursor.Consists graphemes := ⟨reachable.sound, divides.eq_clusterTexts.symm⟩
  refine ⟨?_, trimmedBoth_trimsAs.settles (fun _ => stripped_stripped) consists,
    skipped_trimsAs.settles (List.dropWhile_idempotent _) consists,
    trimBack_trimsAs.settles (List.rdropWhile_idempotent _) consists⟩
  obtain ⟨piece, trimmed, pieceConsists⟩ := trimmedBoth_trimsAs cursor graphemes consists
  have pieceListed := listed_eq pieceConsists.coherent
  have pieceDivides := Grapheme.isDivision_clusterTexts piece.content
  rw [pieceConsists.clusters] at pieceListed pieceDivides
  obtain ⟨other, otherTrimmed, otherConsists, window⟩ := consists.copy_skipped_trimBack
  have bothEnds := trimmed.symm.trans consists.trimmedBoth_eq
  refine ⟨piece, trimmed, pieceDivides, pieceListed, ?_, other, otherTrimmed, ?_, ?_, ?_⟩
  · rw [consists.trimBack_skipped, trimmed]
  · rw [otherConsists.content, pieceConsists.content]
  · rintro ⟨grapheme, member, filled⟩
    have notEmpty : stripped Text.holdsBlank graphemes ≠ [] := by
      intro empty
      exact filled (stripped_eq_nil_iff.mp empty grapheme member)
    rw [takeWhile_rdropWhile notEmpty, ← window] at bothEnds
    exact (Except.ok.inj bothEnds).symm
  · intro blank
    have empty : stripped Text.holdsBlank graphemes = [] := stripped_eq_nil_iff.mpr blank
    rw [empty] at bothEnds window
    rw [List.rdropWhile_eq_nil_iff.mpr blank] at bothEnds
    rw [List.takeWhile_eq_self_iff.mpr blank, ← consists.content] at window
    constructor
    · rw [Except.ok.inj bothEnds]
      exact part_front cursor 0
    · rw [window]
      exact consists.inside.part_end

/-- At the front a space that carries an accent and a line break, at the back a space behind a sign
that it completes: each of them is one blank cluster, together with what is not blank in it. -/
theorem trims_agree_of_glued_blanks :
    let cursor : Cursor :=
      { source := "( \u0301\r\na b\u0600 )".toList, start := 1, size := 9 }
    let graphemes : List Text :=
      [[' ', '\u0301'], ['\r', '\n'], ['a'], [' '], ['b'], ['\u0600', ' ']]
    Reachable cursor ∧ Grapheme.IsDivision cursor.content graphemes ∧
      ∃ piece, cursor.trimmedBoth = .ok piece ∧ piece.listed = .ok [['a'], [' '], ['b']] ∧
        (cursor.trimBack >>= skipped) = .ok piece ∧
        (cursor.copy >>= skipped >>= trimBack) = .ok piece ∧ Settles trimmedBoth cursor := by
  intro cursor graphemes
  let script : List Step :=
    [⟨none, some "text", .create "( \u0301\r\na b\u0600 )".toList 0 none⟩,
      ⟨some "text", none, .apply (.sub 1 (some 9))⟩]
  have placed : (Store.run {} script).2.cursors[1]? = some cursor := by decide +kernel
  have reachable : Reachable cursor := ⟨script, List.mem_of_getElem? placed⟩
  have divided : TextCursor.clusterTexts cursor.content = graphemes := by decide +kernel
  have divides : Grapheme.IsDivision cursor.content graphemes :=
    divided ▸ Grapheme.isDivision_clusterTexts cursor.content
  have kept : stripped Text.holdsBlank graphemes = [['a'], [' '], ['b']] := by decide
  have notBlank : ∃ grapheme ∈ graphemes, ¬Text.holdsBlank grapheme := ⟨['a'], by decide⟩
  obtain ⟨⟨piece, trimmed, -, listed, backFirst, other, frontFirst, -, same, -⟩, settles, -⟩ :=
    reachable.trims_agree divides
  rw [kept] at listed
  rw [same notBlank] at frontFirst
  exact ⟨reachable, divides, piece, trimmed, listed, backFirst, frontFirst, settles⟩

end Script

end TextCursor
