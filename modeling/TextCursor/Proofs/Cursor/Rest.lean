import TextCursor.Proofs.Cursor.Scanning
import TextCursor.Proofs.Cursor.Trimming

/-!
Contract: what is left of a window when something has been taken off its front.

Owns: the relation between the cursor that is left and the one there was, and how much each of the
removals that keep the end of the window takes: of clusters, of leading blanks, and of a word.

Does not own: what a removal yields.
-/

namespace TextCursor.Cursor

open Edit

/-- The window is what is left of another one behind `taken` code points. -/
structure IsRest (rest whole : Cursor) (taken : Nat) : Prop extends rest.Sound where
  fits : taken ≤ whole.content.length
  window : rest.bare = whole.part taken (whole.content.length - taken)

namespace IsRest

variable {rest whole : Cursor} {taken : Nat}

/-- A step leaves what its twin does, which takes no notice of the memory. -/
theorem of_mirrors {α : Type} {step twin : Edit α} (mirrors : step.Mirrors twin)
    (sound : whole.Sound) (fits : taken ≤ whole.content.length) {result : Except Error α}
    (ran : twin.on whole.bare = (result, whole.part taken (whole.content.length - taken))) :
    ∃ rest, step.on whole = (result, rest) ∧ rest.IsRest whole taken := by
  obtain ⟨same, coherent⟩ := mirrors whole sound.coherent
  rw [ran] at same
  obtain ⟨rfl, window⟩ := Prod.mk.inj same
  have inside : (step.on whole).2.bare.Inside := window ▸ (sound.inside.holds_back fits).inside
  exact ⟨_, rfl, ⟨inside, coherent⟩, fits, window.symm⟩

theorem of_part (inside : whole.Inside) (fits : taken ≤ whole.content.length) :
    (whole.part taken (whole.content.length - taken)).IsRest whole taken :=
  ⟨(inside.holds_back fits).toSound, fits, rfl⟩

variable (isRest : rest.IsRest whole taken)

include isRest

theorem source_eq : rest.source = whole.source := by
  rw [← bare_source, isRest.window]
  rfl

theorem start_eq : rest.start = whole.start + taken := by
  rw [← bare_start, isRest.window]
  rfl

theorem content_eq (inside : whole.Inside) : rest.content = whole.content.drop taken := by
  rw [← bare_content, isRest.window, (inside.holds_back isRest.fits).content]

theorem size_eq (inside : whole.Inside) : rest.size = whole.size - taken := by
  rw [inside.size_sub isRest.fits, ← bare_size, isRest.window]
  rfl

theorem stop_eq (inside : whole.Inside) : rest.stop = whole.stop := by
  rw [stop, stop, isRest.start_eq, isRest.size_eq inside]
  omega

/-- What is left of what was left. -/
theorem trans {last : Cursor} {further : Nat} (inside : whole.Inside)
    (lastIsRest : last.IsRest rest further) : last.IsRest whole (taken + further) := by
  have content := congrArg List.length (isRest.content_eq inside)
  have fits := isRest.fits
  have furtherFits := lastIsRest.fits
  rw [List.length_drop] at content
  refine ⟨lastIsRest.toSound, by omega, ?_⟩
  have startEq : rest.start + further = whole.start + (taken + further : Nat) := by
    rw [isRest.start_eq]
    omega
  have sizeEq : rest.content.length - further = whole.content.length - (taken + further) := by
    omega
  rw [lastIsRest.window, part, part, isRest.source_eq, startEq, sizeEq]

end IsRest

section Removals

variable {cursor : Cursor} (sound : cursor.Sound)

include sound

theorem isRest_of_popFront (count : Int) :
    ∃ piece rest, (popFront count).on cursor = (.ok piece, rest) ∧
      rest.IsRest cursor (clusterOffset cursor.content count.toNat) := by
  have popped := on_popFront sound.inside count
  obtain ⟨rest, ran, isRest⟩ :=
    IsRest.of_mirrors (popFront_mirrors count) sound (clusterOffset_le _ _) popped
  exact ⟨_, rest, ran, isRest⟩

theorem isRest_of_skipBlanks :
    ∃ rest, skipBlanks.on cursor = (.ok (), rest) ∧
      rest.IsRest cursor (clusterOffset cursor.content (leadingBlanks cursor.content)) :=
  IsRest.of_mirrors skipBlanks_mirrors sound (clusterOffset_le _ _) (on_skipBlanks sound.inside)

theorem isRest_of_word :
    ∃ rest, Token.word.on cursor = (.ok (headWord cursor.content), rest) ∧
      rest.IsRest cursor (headWord cursor.content).length :=
  ⟨_, on_word sound.inside, .of_part sound.inside (headWord_length_le _)⟩

end Removals

/-- The first cluster of a text that is not empty has an extent. -/
theorem clusterOffset_pos {text : Text} (filled : text ≠ []) {count : Nat} (positive : 0 < count) :
    0 < clusterOffset text count := by
  have first : 0 < clusterOffset text 1 := by
    cases text with
    | nil => contradiction
    | cons c rest =>
        rw [clusterOffset_one, firstCluster, TextCursor.clusterTexts, List.headD_cons]
        exact Nat.succ_pos _
  exact Nat.lt_of_lt_of_le first (clusterOffset_mono positive)

end TextCursor.Cursor
