import TextCursor.Proofs.Cursor.Field
import TextCursor.Proofs.Cursor.Scanning
import TextCursor.Proofs.Cursor.Trimming

/-!
Contract: what stands outside a window never shows.

Owns: the relation between two cursors whose windows read the same, each over a source of its
own; that an operation answers the same on both, or yields related cursors, and leaves related
cursors.

Does not own: scripts, and operations that name a place in the source.

The operations that scan the source in place are among these. Each of them has an equation that
says what it does in terms of the window's text; the relation is read off those equations.
-/

namespace TextCursor

namespace Cursor

/-- From windows over one source to windows over another, which begin `distance` code points
earlier. -/
structure Shift where
  source : Text
  sourceThere : Text
  distance : Int

/-- From a source to the same source. -/
def Shift.still (source : Text) : Shift := ⟨source, source, 0⟩

/-- The windows read the same, and are as far apart as the shift says, over its sources. -/
structure Relocated (shift : Shift) (here there : Cursor) : Prop where
  sound : here.Sound
  soundThere : there.Sound
  content : here.content = there.content
  source : here.source = shift.source
  sourceThere : there.source = shift.sourceThere
  start : here.start = there.start + shift.distance

namespace Relocated

variable {shift : Shift} {here there : Cursor}

theorem size (relocated : Relocated shift here there) : here.size = there.size := by
  rw [relocated.sound.inside.size_eq, relocated.soundThere.inside.size_eq, relocated.content]

theorem bare (relocated : Relocated shift here there) : Relocated shift here.bare there.bare where
  sound := ⟨relocated.sound.inside, here.coherent_bare⟩
  soundThere := ⟨relocated.soundThere.inside, there.coherent_bare⟩
  content := relocated.content
  source := relocated.source
  sourceThere := relocated.sourceThere
  start := relocated.start

/-- What is remembered does not count as long as it is right. -/
theorem of_bare (coherent : here.Coherent) (coherentThere : there.Coherent)
    (relocated : Relocated shift here.bare there.bare) : Relocated shift here there where
  sound := ⟨relocated.sound.inside, coherent⟩
  soundThere := ⟨relocated.soundThere.inside, coherentThere⟩
  content := relocated.content
  source := relocated.source
  sourceThere := relocated.sourceThere
  start := relocated.start

/-- The same part of both windows. -/
theorem part (relocated : Relocated shift here there) {offset size : Nat}
    (fits : offset + size ≤ there.content.length) :
    Relocated shift (here.part offset size) (there.part offset size) := by
  have fitsHere : offset + size ≤ here.content.length := by rwa [relocated.content]
  refine ⟨relocated.sound.inside.sound_part fitsHere,
    relocated.soundThere.inside.sound_part fits, ?_, relocated.source, relocated.sourceThere, ?_⟩
  · rw [relocated.sound.inside.content_part fitsHere,
      relocated.soundThere.inside.content_part fits, relocated.content]
  · show here.start + offset = there.start + offset + shift.distance
    rw [relocated.start]
    omega

end Relocated

/-- A cursor over a text of its own reads the same as a window over it. -/
theorem Sound.relocated {cursor : Cursor} (sound : cursor.Sound) :
    Relocated ⟨cursor.source, cursor.content, cursor.start⟩ cursor
      { source := cursor.content, start := 0, size := cursor.content.length } where
  sound := sound
  soundThere := ⟨inside_whole cursor.content, coherent_of_cache_empty rfl⟩
  content := (content_whole cursor.content).symm
  source := rfl
  sourceThere := rfl
  start := (Int.zero_add _).symm

/-- Over a source that stays, windows are related if they are the same window. -/
theorem relocated_still_iff {text : Text} {here there : Cursor} :
    Relocated (.still text) here there ↔
      here.Sound ∧ there.Sound ∧ here.source = text ∧ here.bare = there.bare := by
  constructor
  · intro relocated
    have sameSource : here.source = there.source :=
      relocated.source.trans relocated.sourceThere.symm
    have sameStart : here.start = there.start := relocated.start.trans (Int.add_zero _)
    refine ⟨relocated.sound, relocated.soundThere, relocated.source, ?_⟩
    rw [bare, bare, sameSource, sameStart, relocated.size]
  · rintro ⟨sound, soundThere, rfl, same⟩
    have sameContent : here.bare.content = there.bare.content := congrArg content same
    have sameSource : there.bare.source = here.bare.source := congrArg source same.symm
    have sameStart : here.bare.start = there.bare.start := congrArg start same
    exact ⟨sound, soundThere, sameContent, rfl, sameSource,
      sameStart.trans (Int.add_zero _).symm⟩

/-- One of the shifts relates the windows. -/
def Counterpart (shifts : List Shift) (here there : Cursor) : Prop :=
  ∃ shift ∈ shifts, Relocated shift here there

theorem counterpart_of_mem {shifts : List Shift} {shift : Shift} (member : shift ∈ shifts)
    ⦃here there : Cursor⦄ (relocated : Relocated shift here there) :
    Counterpart shifts here there := ⟨shift, member, relocated⟩

theorem Counterpart.content {shifts : List Shift} {here there : Cursor}
    (counterpart : Counterpart shifts here there) : here.content = there.content := by
  obtain ⟨shift, -, relocated⟩ := counterpart
  exact relocated.content

end Cursor

/-! ## Operations that know only their window -/

/-- Both fail with the same error, or both yield something, and the one is related to the other. -/
inductive SameOutcome {α : Type} (related : α → α → Prop) : Except Error α → Except Error α → Prop
  | ok {here there : α} (same : related here there) : SameOutcome related (.ok here) (.ok there)
  | error (error : Error) : SameOutcome related (.error error) (.error error)

namespace Edit

open Cursor

variable {α β : Type} {shift : Shift} {related : α → α → Prop} {relatedNext : β → β → Prop}

/-- The outcomes are related, and so are the cursors that are left. -/
structure Tally (shift : Shift) (related : α → α → Prop) (here there : Except Error α × Cursor) :
    Prop where
  outcome : SameOutcome related here.1 there.1
  left : Relocated shift here.2 there.2

/-- On windows that read the same, the one step does what the other does. -/
def Accord (shift : Shift) (related : α → α → Prop) (step other : Edit α) : Prop :=
  ∀ ⦃here there : Cursor⦄, Relocated shift here there →
    Tally shift related (step.on here) (other.on there)

/-- A step that knows only the window's text. -/
abbrev Local (shift : Shift) (related : α → α → Prop) (step : Edit α) : Prop :=
  Accord shift related step step

theorem accord_pure {value other : α} (same : related value other) :
    Accord shift related (pure value) (pure other) :=
  fun _ _ relocated => ⟨.ok same, relocated⟩

theorem accord_ofExcept {outcome other : Except Error α}
    (same : SameOutcome related outcome other) :
    Accord shift related (ofExcept outcome) (ofExcept other) := by
  intro here there relocated
  rw [on_ofExcept, on_ofExcept]
  exact ⟨same, relocated⟩

theorem accord_bind {step other : Edit α} {next nextOther : α → Edit β}
    (first : Accord shift related step other)
    (later : ∀ ⦃value valueOther : α⦄, related value valueOther →
      Accord shift relatedNext (next value) (nextOther valueOther)) :
    Accord shift relatedNext (step >>= next) (other >>= nextOther) := by
  intro here there relocated
  obtain ⟨outcome, left⟩ := first relocated
  rw [on_bind, on_bind]
  cases ran : step.on here with
  | mk result after =>
      cases ranOther : other.on there with
      | mk resultOther afterOther =>
          rw [ran, ranOther] at outcome left
          cases outcome with
          | ok same => exact later same left
          | error error => exact ⟨.error error, left⟩

theorem accord_get_bind {next nextOther : Cursor → Edit β}
    (later : ∀ ⦃here there : Cursor⦄, Relocated shift here there →
      Accord shift relatedNext (next here) (nextOther there)) :
    Accord shift relatedNext (get >>= next) (get >>= nextOther) :=
  fun _ _ relocated => later relocated relocated

/-- A step is local if its twin is, on cursors that remember nothing. -/
theorem local_of_mirrors {step twin : Edit α} (mirrors : step.Mirrors twin)
    (tallies : ∀ ⦃here there : Cursor⦄, Relocated shift here there →
      Tally shift related (twin.on here.bare) (twin.on there.bare)) :
    Local shift related step := by
  intro here there relocated
  obtain ⟨same, coherent⟩ := mirrors here relocated.sound.coherent
  obtain ⟨sameThere, coherentThere⟩ := mirrors there relocated.soundThere.coherent
  obtain ⟨outcome, left⟩ := tallies relocated
  rw [same, sameThere] at outcome left
  exact ⟨outcome, .of_bare coherent coherentThere left⟩

end Edit

namespace Cursor

open Edit

variable {shift : Shift}

/-- The same cut through both windows. -/
theorem Relocated.cut {α : Type} {related : α → α → Prop} {here there : Cursor}
    (relocated : Relocated shift here there) {value valueThere : α} {offset : Nat}
    (same : related value valueThere) (fits : offset ≤ there.content.length) :
    Tally shift related (.ok value, here.part offset (there.content.length - offset))
      (.ok valueThere, there.part offset (there.content.length - offset)) :=
  ⟨.ok same, relocated.part (by omega)⟩

/-- A piece from the front of both windows. -/
theorem Relocated.front {here there : Cursor}
    (relocated : Relocated shift here there) {size : Nat} (fits : size ≤ there.content.length) :
    Relocated shift (here.part 0 size) (there.part 0 size) :=
  relocated.part (by omega)

/-! ## Clusters -/

theorem local_clusterTexts : Local shift Eq clusterTexts := by
  apply local_of_mirrors clusterTexts_mirrors
  intro here there relocated
  refine ⟨?_, relocated.bare⟩
  simp only [Uncached.clusterTexts, on_bind, Uncached.on_clusters, on_pure, bare_content,
    relocated.content]
  exact .ok rfl

theorem local_clusterCount : Local shift Eq clusterCount := by
  apply local_of_mirrors clusterCount_mirrors
  intro here there relocated
  refine ⟨?_, relocated.bare⟩
  simp only [Uncached.clusterCount, on_bind, Uncached.on_clusters, on_pure, bare_content,
    relocated.content]
  exact .ok rfl

theorem local_clusterAt (index : Int) : Local shift Eq (clusterAt index) := by
  apply local_of_mirrors (clusterAt_mirrors index)
  intro here there relocated
  rw [on_clusterAt, on_clusterAt, bare_content, bare_content, relocated.content]
  exact ⟨.ok rfl, relocated.bare⟩

theorem local_popFront (count : Int) : Local shift (Relocated shift) (popFront count) := by
  apply local_of_mirrors (popFront_mirrors count)
  intro here there relocated
  have fits := clusterOffset_le there.content count.toNat
  rw [on_popFront relocated.sound.inside, on_popFront relocated.soundThere.inside,
    relocated.content]
  exact relocated.cut (relocated.front fits) fits

theorem local_popBack (count : Int) : Local shift (Relocated shift) (popBack count) := by
  intro here there relocated
  have fits := clusterOffset_le there.content
    ((TextCursor.clusterTexts there.content).length - count.toNat)
  rw [on_popBack relocated.sound.inside, on_popBack relocated.soundThere.inside,
    relocated.content]
  split
  · exact ⟨.ok (relocated.front (Nat.zero_le _)), relocated⟩
  · split
    · exact ⟨.ok relocated.bare, relocated.part (Nat.le_refl _)⟩
    · exact ⟨.ok (relocated.part (by rw [lastOffset]; omega)), relocated.front fits⟩

theorem local_cluster : Local shift Eq Token.cluster := by
  apply local_of_mirrors token_mirrors
  intro here there relocated
  have fits := clusterOffset_le there.content 1
  rw [clusterOffset_one] at fits
  rw [on_token relocated.sound.inside, on_token relocated.soundThere.inside, relocated.content]
  split
  · exact ⟨.ok rfl, relocated.bare⟩
  · exact relocated.cut rfl fits

/-! ## Blanks -/

theorem local_skipBlanks : Local shift Eq skipBlanks := by
  apply local_of_mirrors skipBlanks_mirrors
  intro here there relocated
  rw [on_skipBlanks relocated.sound.inside, on_skipBlanks relocated.soundThere.inside,
    relocated.content]
  exact relocated.cut rfl (clusterOffset_le _ _)

theorem local_trim : Local shift (Relocated shift) trim := by
  apply local_of_mirrors trim_mirrors
  intro here there relocated
  rw [on_trim relocated.sound.inside, on_trim relocated.soundThere.inside, relocated.content]
  exact ⟨.ok (relocated.part (trimmed_fits _)), relocated.bare⟩

/-! ## Fields and needles -/

theorem local_popField (delimiter : Text) : Local shift (Relocated shift) (popField delimiter) := by
  intro here there relocated
  rw [on_popField relocated.sound.inside, on_popField relocated.soundThere.inside,
    relocated.content]
  cases found : fieldEnds? delimiter there.content with
  | none => exact ⟨.ok relocated.bare, relocated.part (Nat.le_refl _)⟩
  | some ends =>
      obtain ⟨beforeFits, afterFits⟩ := fieldEnds?_fits found
      exact relocated.cut (relocated.front beforeFits) afterFits

theorem local_popField? (delimiter : Text) :
    Local shift (Option.Rel (Relocated shift)) (popField? delimiter) := by
  intro here there relocated
  rw [on_popField? relocated.sound.inside, on_popField? relocated.soundThere.inside,
    relocated.content]
  cases found : fieldEnds? delimiter there.content with
  | none => exact ⟨.ok .none, relocated⟩
  | some ends =>
      obtain ⟨beforeFits, afterFits⟩ := fieldEnds?_fits found
      exact relocated.cut (.some (relocated.front beforeFits)) afterFits

theorem local_popBefore (needle : Text) : Local shift (Relocated shift) (popBefore needle) := by
  intro here there relocated
  rw [on_popBefore relocated.sound.inside, on_popBefore relocated.soundThere.inside,
    relocated.content]
  cases found : Text.find? there.content.dropLast needle with
  | none => exact ⟨.ok relocated.bare, relocated.part (Nat.le_refl _)⟩
  | some offset =>
      have fits := Text.find?_add_length_le found
      rw [List.length_dropLast] at fits
      exact relocated.cut (relocated.front (by omega)) (by omega)

theorem local_popBefore? (needle : Text) :
    Local shift (Option.Rel (Relocated shift)) (popBefore? needle) := by
  intro here there relocated
  rw [on_popBefore? relocated.sound.inside, on_popBefore? relocated.soundThere.inside,
    relocated.content]
  cases found : there.content.find? needle with
  | none => exact ⟨.ok .none, relocated⟩
  | some offset =>
      have fits := Text.find?_add_length_le found
      exact relocated.cut (.some (relocated.front (by omega))) fits

/-! ## Predicates -/

theorem Relocated.walkFront {here there : Cursor}
    (relocated : Relocated shift here there) (accepts : Predicate) :
    here.walkFront accepts = there.walkFront accepts := by
  rw [walkFront_eq relocated.sound.inside, walkFront_eq relocated.soundThere.inside,
    relocated.content]

theorem Relocated.walkBack {here there : Cursor}
    (relocated : Relocated shift here there) (accepts : Predicate) :
    here.walkBack accepts = there.walkBack accepts := by
  rw [walkBack_eq relocated.sound.inside, walkBack_eq relocated.soundThere.inside,
    relocated.content]

/-- The piece that a predicate accepts at the front, looked at or removed. -/
theorem frontWhile_tallies {here there : Cursor}
    (relocated : Relocated shift here there) (accepts : Predicate) :
    SameOutcome (Relocated shift) (here.takeFrontWhile accepts) (there.takeFrontWhile accepts) ∧
      Tally shift (Relocated shift) ((popFrontWhile accepts).on here)
        ((popFrontWhile accepts).on there) := by
  rcases walkFront_outcome relocated.soundThere.inside accepts with
    ⟨count, fits, walked⟩ | ⟨-, -, error, -, walked⟩
  · have fitsHere : count ≤ here.content.length := by rwa [relocated.content]
    have walkedHere := walked
    rw [← relocated.walkFront] at walkedHere
    obtain ⟨taken, popped⟩ := takeFrontWhile_eq relocated.sound.inside fitsHere walkedHere
    obtain ⟨takenThere, poppedThere⟩ := takeFrontWhile_eq relocated.soundThere.inside fits walked
    rw [taken, takenThere, popped, poppedThere, relocated.content]
    exact ⟨.ok (relocated.front fits), relocated.cut (relocated.front fits) fits⟩
  · have walkedHere := walked
    rw [← relocated.walkFront] at walkedHere
    obtain ⟨taken, popped⟩ := takeFrontWhile_of_error walkedHere
    obtain ⟨takenThere, poppedThere⟩ := takeFrontWhile_of_error walked
    rw [taken, takenThere, popped, poppedThere]
    exact ⟨.error error, .error error, relocated⟩

theorem backWhile_tallies {here there : Cursor}
    (relocated : Relocated shift here there) (accepts : Predicate) :
    SameOutcome (Relocated shift) (here.takeBackWhile accepts) (there.takeBackWhile accepts) ∧
      Tally shift (Relocated shift) ((popBackWhile accepts).on here)
        ((popBackWhile accepts).on there) := by
  rcases walkBack_outcome relocated.soundThere.inside accepts with
    ⟨count, fits, walked⟩ | ⟨-, -, error, -, walked⟩
  · have fitsHere : count ≤ here.content.length := by rwa [relocated.content]
    have walkedHere := walked
    rw [← relocated.walkBack] at walkedHere
    obtain ⟨taken, popped⟩ := takeBackWhile_eq relocated.sound.inside fitsHere walkedHere
    obtain ⟨takenThere, poppedThere⟩ := takeBackWhile_eq relocated.soundThere.inside fits walked
    have pieceFits : there.content.length - count + count ≤ there.content.length := by omega
    have piece := relocated.part pieceFits
    rw [taken, takenThere, popped, poppedThere, relocated.content]
    exact ⟨.ok piece, .ok piece, relocated.front (Nat.sub_le _ _)⟩
  · have walkedHere := walked
    rw [← relocated.walkBack] at walkedHere
    obtain ⟨taken, popped⟩ := takeBackWhile_of_error walkedHere
    obtain ⟨takenThere, poppedThere⟩ := takeBackWhile_of_error walked
    rw [taken, takenThere, popped, poppedThere]
    exact ⟨.error error, .error error, relocated⟩

theorem local_word : Local shift Eq Token.word := by
  intro here there relocated
  rw [on_word relocated.sound.inside, on_word relocated.soundThere.inside, relocated.content]
  exact relocated.cut rfl (headWord_length_le _)

/-! ## Numbers -/

section Readers

-- The reader has an equation that speaks of the window's text only.
variable {α : Type} {reader : Edit (Option α)} {reading : Text → Numeral.Reading α}
  (fits : ∀ text : Text, (reading text).width ≤ text.length)
  (ran : ∀ {cursor : Cursor}, cursor.Inside → reader.on cursor =
    if (reading cursor.content).found then
      (.ok (some (reading cursor.content).value), cursor.part (reading cursor.content).width
        (cursor.content.length - (reading cursor.content).width))
    else (.ok none, cursor))

include fits ran

theorem local_reader : Local shift Eq reader := by
  intro here there relocated
  rw [ran relocated.sound.inside, ran relocated.soundThere.inside, relocated.content]
  split
  · exact relocated.cut rfl (fits _)
  · exact ⟨.ok rfl, relocated⟩

theorem local_required (kind : Text) : Local shift Eq (Token.required kind reader) := by
  intro here there relocated
  rw [on_required kind (ran relocated.sound.inside),
    on_required kind (ran relocated.soundThere.inside), relocated.content]
  split
  · exact relocated.cut rfl (fits _)
  · exact ⟨.error _, relocated⟩

end Readers

theorem local_popInt? : Local shift Eq popInt? :=
  local_reader Numeral.integerOf_width_le on_popInt?

theorem local_popDecimal? : Local shift Eq popDecimal? :=
  local_reader Numeral.decimalReadingOf_width_le on_popDecimal?

theorem local_int : Local shift Eq Token.int :=
  local_required Numeral.integerOf_width_le on_popInt? _

theorem local_decimal : Local shift Eq Token.decimal :=
  local_required Numeral.decimalReadingOf_width_le on_popDecimal? _

end Cursor

end TextCursor
