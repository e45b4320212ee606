import TextCursor.Proofs.Grapheme.Alignment
import TextCursor.Proofs.Script.Reachable

/-!
Contract: the field before a delimiter, from any cursor that a script makes.

Owns: that the two removals of a field agree on where the field ends, and that it ends at the
first place where the delimiter stands between two cluster boundaries of the window.

An empty delimiter stands at the front of every text, but in an empty window there is no cluster
to find it before.

Does not own: what an aligned occurrence is.
-/

namespace TextCursor.Script

open Edit Cursor Grapheme

/-! ## Where the field of a text ends -/

section FieldEnds

variable {delimiter text : Text}

/-- The delimiter is moved past as a whole. -/
theorem fieldEnds?_snd {ends : Nat × Nat} (found : fieldEnds? delimiter text = some ends) :
    ends.2 = ends.1 + delimiter.length := by
  obtain ⟨parts, -, rfl⟩ := Option.map_eq_some_iff.mp found
  rfl

theorem fieldEnds?_eq_some_iff (filled : delimiter ≠ []) {offset : Nat} :
    fieldEnds? delimiter text = some (offset, offset + delimiter.length) ↔
      IsFirstAligned text delimiter offset := by
  unfold fieldEnds?
  cases cut : cut? (TextCursor.clusterTexts delimiter) (TextCursor.clusterTexts text) with
  | none =>
      have nowhere := not_standsAligned_of_uncut filled cut offset
      rw [Option.map_none]
      exact ⟨nofun, fun first => absurd first.toStandsAligned nowhere⟩
  | some parts =>
      obtain ⟨before, after⟩ := parts
      have first := isFirstAligned_of_cut cut
      rw [Option.map_some]
      constructor
      · intro found
        obtain ⟨rfl, -⟩ := Prod.mk.inj (Option.some.inj found)
        exact first
      · intro other
        rw [other.unique first]

theorem fieldEnds?_eq_none_iff (filled : delimiter ≠ []) :
    fieldEnds? delimiter text = none ↔ ∀ offset, ¬StandsAligned text delimiter offset := by
  unfold fieldEnds?
  cases cut : cut? (TextCursor.clusterTexts delimiter) (TextCursor.clusterTexts text) with
  | none =>
      rw [Option.map_none]
      exact ⟨fun _ => not_standsAligned_of_uncut filled cut, fun _ => rfl⟩
  | some parts =>
      obtain ⟨before, after⟩ := parts
      have stands := standsAligned_of_cut cut
      rw [Option.map_some]
      exact ⟨nofun, fun nowhere => absurd stands (nowhere _)⟩

/-- Nothing to find is found before the first cluster, if there is one. -/
theorem fieldEnds?_nil (text : Text) :
    fieldEnds? [] text = if text = [] then none else some (0, 0) := by
  cases text with
  | nil => rfl
  | cons c rest =>
      obtain ⟨first, later, divided⟩ :=
        List.exists_cons_of_ne_nil (clusterTexts_ne_nil (List.cons_ne_nil c rest))
      have cut : cut? (TextCursor.clusterTexts []) (first :: later) =
          some ([], first :: later) := if_pos List.nil_prefix
      rw [fieldEnds?, divided, cut, if_neg (List.cons_ne_nil c rest)]
      rfl

end FieldEnds

/-! ## The two removals -/

/-- The delimiter is found at an offset of the window: both removals yield what comes before it as
a new cursor, and leave the window behind it. -/
structure FieldEndsAt (cursor : Cursor) (delimiter : Text) (offset : Nat) : Prop where
  attempted : (Operation.popField? delimiter).run.on cursor =
    (.ok (.outcome (.found (.cursor (cursor.windowAt cursor.start offset)))),
      cursor.windowAt (cursor.start + offset + delimiter.length)
        (cursor.size - offset - delimiter.length))
  required : (Operation.popField delimiter).run.on cursor =
    (.ok (.value (.cursor (cursor.windowAt cursor.start offset))),
      cursor.windowAt (cursor.start + offset + delimiter.length)
        (cursor.size - offset - delimiter.length))

/-- The delimiter is not found: one removal fails and touches nothing; the other yields the whole
window, and leaves an empty one at its end. -/
structure FieldGoesOn (cursor : Cursor) (delimiter : Text) : Prop where
  attempted : (Operation.popField? delimiter).run.on cursor = (.ok (.outcome .missing), cursor)
  required : (Operation.popField delimiter).run.on cursor =
    (.ok (.value (.cursor (cursor.windowAt cursor.start cursor.size))),
      cursor.windowAt (cursor.start + cursor.size) 0)

section Removals

variable {cursor : Cursor} {delimiter : Text}

theorem fieldEndsAt_of_found (inside : cursor.Inside) {offset : Nat}
    (found : fieldEnds? delimiter cursor.content = some (offset, offset + delimiter.length)) :
    FieldEndsAt cursor delimiter offset := by
  have attempted := on_popField? inside delimiter
  have required := on_popField inside delimiter
  have fits := (fieldEnds?_fits found).2
  rw [found] at attempted required
  dsimp only at attempted required fits
  rw [part_front, inside.part_rest fits] at attempted required
  exact ⟨on_attempt .cursor attempted, on_answer .cursor required⟩

theorem fieldGoesOn_of_missing (inside : cursor.Inside)
    (missing : fieldEnds? delimiter cursor.content = none) : FieldGoesOn cursor delimiter := by
  have attempted := on_popField? inside delimiter
  have required := on_popField inside delimiter
  rw [missing] at attempted required
  dsimp only at attempted required
  rw [inside.part_end] at required
  exact ⟨on_attempt .cursor attempted, on_answer .cursor required⟩

/-- The delimiter is found at no more than one offset. -/
theorem FieldEndsAt.unique {offset other : Nat} (left : FieldEndsAt cursor delimiter offset)
    (right : FieldEndsAt cursor delimiter other) : offset = other := by
  have same := congrArg Prod.snd (left.required.symm.trans right.required)
  have starts := congrArg Cursor.start same
  simp only [windowAt] at starts
  omega

/-- It is found or it is not. -/
theorem FieldEndsAt.not_goesOn {offset : Nat} (ends : FieldEndsAt cursor delimiter offset) :
    ¬FieldGoesOn cursor delimiter := by
  intro goesOn
  have same := congrArg Prod.fst (ends.attempted.symm.trans goesOn.attempted)
  cases same

theorem fieldEndsAt_or_goesOn (inside : cursor.Inside) :
    (∃ offset, fieldEnds? delimiter cursor.content = some (offset, offset + delimiter.length) ∧
        FieldEndsAt cursor delimiter offset) ∨
      fieldEnds? delimiter cursor.content = none ∧ FieldGoesOn cursor delimiter := by
  cases found : fieldEnds? delimiter cursor.content with
  | none => exact Or.inr ⟨rfl, fieldGoesOn_of_missing inside found⟩
  | some ends =>
      obtain ⟨before, after⟩ := ends
      obtain rfl : after = before + delimiter.length := fieldEnds?_snd found
      exact Or.inl ⟨before, rfl, fieldEndsAt_of_found inside found⟩

theorem fieldEndsAt_iff (inside : cursor.Inside) {offset : Nat} :
    FieldEndsAt cursor delimiter offset ↔
      fieldEnds? delimiter cursor.content = some (offset, offset + delimiter.length) := by
  refine ⟨fun ends => ?_, fieldEndsAt_of_found inside⟩
  rcases fieldEndsAt_or_goesOn inside with ⟨other, found, otherEnds⟩ | ⟨-, goesOn⟩
  · rw [ends.unique otherEnds, found]
  · exact absurd goesOn ends.not_goesOn

theorem fieldGoesOn_iff (inside : cursor.Inside) :
    FieldGoesOn cursor delimiter ↔ fieldEnds? delimiter cursor.content = none := by
  refine ⟨fun goesOn => ?_, fieldGoesOn_of_missing inside⟩
  rcases fieldEndsAt_or_goesOn inside with ⟨_, -, ends⟩ | ⟨missing, -⟩
  · exact absurd goesOn ends.not_goesOn
  · exact missing

end Removals

/-- From any cursor that a script made, in whatever state, the field ends where the delimiter first
stands between two cluster boundaries of the window, and it goes on to the end of the window if
there is no such place. An empty delimiter is found at the front of any window but an empty one. -/
theorem Reachable.popField_finds_first_aligned {cursor : Cursor} (reachable : Reachable cursor)
    (delimiter : Text) :
    (delimiter ≠ [] →
      ((∃ offset, FieldEndsAt cursor delimiter offset) ↔
          ∃ offset, StandsAligned cursor.content delimiter offset) ∧
        (∀ offset, FieldEndsAt cursor delimiter offset ↔
          IsFirstAligned cursor.content delimiter offset) ∧
        (FieldGoesOn cursor delimiter ↔
          ∀ offset, ¬StandsAligned cursor.content delimiter offset)) ∧
      (delimiter = [] →
        (FieldEndsAt cursor delimiter 0 ↔ 0 < cursor.size) ∧
          (FieldGoesOn cursor delimiter ↔ cursor.size = 0)) := by
  have inside := reachable.sound.inside
  constructor
  · intro filled
    have first : ∀ offset, FieldEndsAt cursor delimiter offset ↔
        IsFirstAligned cursor.content delimiter offset :=
      fun _ => (fieldEndsAt_iff inside).trans (fieldEnds?_eq_some_iff filled)
    have missing : FieldGoesOn cursor delimiter ↔
        ∀ offset, ¬StandsAligned cursor.content delimiter offset :=
      (fieldGoesOn_iff inside).trans (fieldEnds?_eq_none_iff filled)
    refine ⟨⟨?_, ?_⟩, first, missing⟩
    · rintro ⟨offset, ends⟩
      exact ⟨offset, ((first offset).mp ends).toStandsAligned⟩
    · rintro ⟨offset, stands⟩
      rcases fieldEndsAt_or_goesOn inside with ⟨earliest, -, ends⟩ | ⟨-, goesOn⟩
      · exact ⟨earliest, ends⟩
      · exact absurd stands (missing.mp goesOn offset)
  · rintro rfl
    rw [fieldEndsAt_iff inside, fieldGoesOn_iff inside, fieldEnds?_nil, inside.size_eq]
    cases cursor.content with
    | nil => decide
    | cons c rest =>
        have positive : (0 : Int) < (c :: rest).length := Int.natCast_pos.mpr (Nat.succ_pos _)
        have nonzero : ((c :: rest).length : Int) ≠ 0 := Int.ne_of_gt positive
        rw [if_neg (List.cons_ne_nil c rest)]
        exact ⟨⟨fun _ => positive, fun _ => rfl⟩, nofun, fun zero => absurd zero nonzero⟩

/-- The first comma of the window carries an accent and is part of a longer cluster, so the field
goes on to the second. What stands before the window is another field, and no concern of it. -/
theorem popField_finds_first_aligned_behind_accent :
    let cursor : Cursor := { source := "x,a,\u0301b,c".toList, start := 2, size := 6 }
    Reachable cursor ∧ IsFirstAligned cursor.content [','] 4 ∧ FieldEndsAt cursor [','] 4 ∧
      0 < cursor.size ∧ FieldEndsAt cursor [] 0 := by
  intro cursor
  let script : List Step :=
    [⟨none, some "text", .create "x,a,\u0301b,c".toList 0 none⟩,
      ⟨some "text", none, .apply (.popField [','])⟩]
  have placed : (Store.run {} script).2.cursors[0]? = some cursor := by decide +kernel
  have reachable : Reachable cursor := ⟨script, List.mem_of_getElem? placed⟩
  have first : IsFirstAligned cursor.content [','] 4 := by decide +kernel
  have filled : 0 < cursor.size := by decide
  obtain ⟨-, ends, -⟩ := (reachable.popField_finds_first_aligned [',']).1 (by decide)
  obtain ⟨front, -⟩ := (reachable.popField_finds_first_aligned []).2 rfl
  exact ⟨reachable, first, (ends 4).mpr first, filled, front.mpr filled⟩

end TextCursor.Script
