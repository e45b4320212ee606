import TextCursor.Proofs.Cursor.Field
import TextCursor.Proofs.Cursor.Scanning
import TextCursor.Proofs.Cursor.Trimming
import TextCursor.Proofs.Script.Uncached

/-!
Contract: how an operation can end.

Owns: the failures that each operation admits, and that on a sound cursor it ends in no other
way: it leaves a sound cursor, and any cursor that it yields is sound.

Does not own: stores, and commands that involve names.
-/

namespace TextCursor

/-- How a step ends on a cursor: with a window within its source, and with something `good` or a
failure that is `allowed`. -/
def Edit.EndsWell {α : Type} (step : Edit α) (cursor : Cursor) (good : α → Prop)
    (allowed : Error → Prop) : Prop :=
  (step.on cursor).2.Inside ∧
    match (step.on cursor).1 with
    | .ok value => good value
    | .error error => allowed error

namespace Script

open Edit Cursor

/-- A new cursor is sound; other values have no window. -/
def Value.Sound : Value → Prop
  | .cursor piece => piece.Sound
  | _ => True

def Reply.Sound : Reply → Prop
  | .value single => single.Sound
  | .outcome result => ∀ single ∈ result.data, single.Sound
  | .unbound => True

namespace Operation

/-- The caller's predicate, if the operation has one. -/
def predicate? : Operation → Option Predicate
  | takeFrontWhile accepts | takeBackWhile accepts | popFrontWhile accepts
  | popBackWhile accepts => some accepts
  | _ => none

/-- The caller's predicate fails with this error somewhere. -/
def Blames (operation : Operation) (error : Error) : Prop :=
  ∃ accepts ∈ operation.predicate?, ∃ asked c, accepts asked c = .error error

/-- The failures that an operation itself admits: a part that was asked for lies outside the
source, or a number is not there. -/
inductive Refuses (cursor : Cursor) : Operation → Error → Prop
  | sub {offset start width : Int} {size : Option Int} (startEq : start = cursor.start + offset)
      (widthEq : width = size.getD (cursor.size - offset))
      (outside : ¬Inside { source := cursor.source, start := start, size := width }) :
      Refuses cursor (.sub offset size) (.outOfBounds start width cursor.source.length)
  | tokenInt (missing : (Numeral.integerOf cursor.content).found = false) :
      Refuses cursor .tokenInt (.unparsable "integer".toList cursor.content)
  | tokenDecimal (missing : (Numeral.decimalReadingOf cursor.content).found = false) :
      Refuses cursor .tokenDecimal (.unparsable "float".toList cursor.content)

end Operation

/-! ## Steps -/

section Steps

variable {α : Type} {step : Edit α} {cursor after : Cursor} {good : α → Prop}
  {allowed : Error → Prop}

theorem endsWell_of_ok {value : α} (ran : step.on cursor = (.ok value, after))
    (inside : after.Inside) (isGood : good value) : step.EndsWell cursor good allowed := by
  unfold EndsWell
  rw [ran]
  exact ⟨inside, isGood⟩

theorem endsWell_of_error {error : Error} (ran : step.on cursor = (.error error, after))
    (inside : after.Inside) (isAllowed : allowed error) :
    step.EndsWell cursor good allowed := by
  unfold EndsWell
  rw [ran]
  exact ⟨inside, isAllowed⟩

theorem on_answer (value : α → Value) {result : Except Error α}
    (ran : step.on cursor = (result, after)) :
    (answer value step).on cursor = (result.map fun yielded => .value (value yielded), after) := by
  cases result with
  | ok yielded => simp only [answer, on_bind, ran, on_pure, Except.map]
  | error error => simp only [answer, on_bind, ran, Except.map]

theorem on_attempt (value : α → Value) {step : Edit (Option α)} {result : Except Error (Option α)}
    (ran : step.on cursor = (result, after)) :
    (attempt value step).on cursor =
      (result.map fun found => .outcome (.ofOption (found.map value)), after) := by
  cases result with
  | ok found => simp only [attempt, on_bind, ran, on_pure, Except.map]
  | error error => simp only [attempt, on_bind, ran, Except.map]

/-- A value computed from the cursor, and nothing changes. -/
theorem on_computed (value : α → Value) {compute : Cursor → Except Error α}
    {result : Except Error α} (computed : compute cursor = result) :
    Edit.on (do answer value (.ofExcept (compute (← get)))) cursor =
      (result.map fun yielded => .value (value yielded), cursor) := by
  have ran : (Edit.ofExcept (compute cursor)).on cursor = (result, cursor) := by
    rw [on_ofExcept, computed]
  exact on_answer value ran

theorem on_askCursor (made : Cursor → Except Error Cursor) {result : Except Error Cursor}
    (computed : made cursor = result) :
    (askCursor made).on cursor = (result.map fun piece => .value (.cursor piece), cursor) :=
  on_computed .cursor computed

theorem answer_endsWell {value : α → Value}
    (ends : step.EndsWell cursor (fun yielded => (value yielded).Sound) allowed) :
    (answer value step).EndsWell cursor Reply.Sound allowed := by
  obtain ⟨inside, outcome⟩ := ends
  cases ran : step.on cursor with
  | mk result after =>
      have answered := on_answer value ran
      rw [ran] at inside outcome
      cases result with
      | ok yielded => exact endsWell_of_ok answered inside outcome
      | error error => exact endsWell_of_error answered inside outcome

theorem attempt_endsWell {step : Edit (Option α)} {value : α → Value}
    (ends : step.EndsWell cursor (fun found => ∀ yielded ∈ found, (value yielded).Sound) allowed) :
    (attempt value step).EndsWell cursor Reply.Sound allowed := by
  obtain ⟨inside, outcome⟩ := ends
  cases ran : step.on cursor with
  | mk result after =>
      have attempted := on_attempt value ran
      rw [ran] at inside outcome
      cases result with
      | ok found =>
          apply endsWell_of_ok attempted inside
          cases found with
          | none => simp [Reply.Sound, Outcome.ofOption, Outcome.missing]
          | some yielded => simpa [Reply.Sound, Outcome.ofOption, Outcome.found] using outcome
      | error error => exact endsWell_of_error attempted inside outcome

theorem ask_endsWell {value : Cursor → Value} (inside : cursor.Inside)
    (sound : (value cursor).Sound) : (ask value).EndsWell cursor Reply.Sound allowed :=
  answer_endsWell (endsWell_of_ok (on_get cursor) inside sound)

theorem computed_endsWell {value : α → Value} {compute : Cursor → Except Error α} {yielded : α}
    (inside : cursor.Inside) (computed : compute cursor = .ok yielded)
    (sound : (value yielded).Sound) :
    Edit.EndsWell (do answer value (.ofExcept (compute (← get)))) cursor Reply.Sound allowed :=
  endsWell_of_ok (on_computed value computed) inside sound

theorem askCursor_endsWell {result : Cursor → Except Error Cursor} {piece : Cursor}
    (inside : cursor.Inside) (made : result cursor = .ok piece) (sound : piece.Sound) :
    (askCursor result).EndsWell cursor Reply.Sound allowed :=
  computed_endsWell inside made sound

theorem askCursor_endsWell_of_error {result : Cursor → Except Error Cursor} {error : Error}
    (inside : cursor.Inside) (failed : result cursor = .error error) (isAllowed : allowed error) :
    (askCursor result).EndsWell cursor Reply.Sound allowed :=
  endsWell_of_error (on_askCursor result failed) inside isAllowed

theorem cutsFront_endsWell {step : Edit α} {value : Cursor → α} (inside : cursor.Inside)
    (cuts : CutsFront step value cursor)
    (sound : ∀ piece : Cursor, piece.Sound → good (value piece)) :
    step.EndsWell cursor good allowed := by
  obtain ⟨before, after, beforeFits, afterFits, ran⟩ := cuts
  have pieceSound := (inside.holds_front beforeFits).toSound
  have restInside := (inside.holds_back afterFits).inside
  exact endsWell_of_ok ran restInside (sound _ pieceSound)

theorem cutsFront?_endsWell {step : Edit (Option Cursor)} (inside : cursor.Inside)
    (cuts : CutsFront? step cursor) :
    step.EndsWell cursor (fun found => ∀ piece ∈ found, piece.Sound) allowed := by
  rcases cuts with nothing | cuts
  · exact endsWell_of_ok nothing inside (by simp)
  · apply cutsFront_endsWell inside cuts
    rintro piece sound _ ⟨⟩
    exact sound

end Steps

/-! ## Operations -/

section Operations

variable {cursor : Cursor} {allowed : Error → Prop}

theorem search_endsWell (inside : cursor.Inside) (search : Search) (needle : Text) :
    (search.run needle).EndsWell cursor Reply.Sound allowed := by
  cases search with
  | offsetOf | reads | readsIgnoringCase | beginsWith | endsWith =>
      exact ask_endsWell inside trivial
  | popBefore =>
      exact answer_endsWell
        (cutsFront_endsWell inside (popBefore_cutsFront inside needle) fun _ sound => sound)
  | popBefore? =>
      exact attempt_endsWell (cutsFront?_endsWell inside (popBefore?_cutsFront? inside needle))

theorem adopt_endsWell {other : Cursor} (inside : other.Inside) :
    (adopt other).EndsWell cursor Reply.Sound allowed := by
  have ran : (Cursor.adopt other).on cursor = (.ok (), other.bare) := rfl
  exact answer_endsWell (endsWell_of_ok ran inside trivial)

/-- A reader that takes a number from the front or nothing. -/
theorem reader_endsWell {α : Type} {reader : Edit (Option α)} {value : α → Value} {found : Bool}
    {number : α} {count : Nat} (inside : cursor.Inside) (fits : count ≤ cursor.content.length)
    (plain : ∀ yielded, (value yielded).Sound)
    (ran : reader.on cursor =
      if found then (.ok (some number), cursor.part count (cursor.content.length - count))
      else (.ok none, cursor)) :
    reader.EndsWell cursor (fun found => ∀ yielded ∈ found, (value yielded).Sound) allowed := by
  cases found with
  | true =>
      rw [if_pos rfl] at ran
      exact endsWell_of_ok ran (inside.holds_back fits).inside fun yielded _ => plain yielded
  | false =>
      rw [if_neg Bool.false_ne_true] at ran
      exact endsWell_of_ok ran inside fun yielded _ => plain yielded

/-- A number that has to be there is there or fails the token. -/
theorem required_endsWell {α : Type} {kind : Text} {reader : Edit (Option α)} {found : Bool}
    {value : α} {count : Nat} (inside : cursor.Inside) (fits : count ≤ cursor.content.length)
    (ran : reader.on cursor =
      if found then (.ok (some value), cursor.part count (cursor.content.length - count))
      else (.ok none, cursor))
    (isAllowed : found = false → allowed (.unparsable kind cursor.content)) :
    (Token.required kind reader).EndsWell cursor (fun _ => True) allowed := by
  have required := on_required kind ran
  cases found with
  | true =>
      rw [if_pos rfl] at required
      exact endsWell_of_ok required (inside.holds_back fits).inside trivial
  | false =>
      rw [if_neg Bool.false_ne_true] at required
      exact endsWell_of_error required inside (isAllowed rfl)

theorem popFront_endsWell (inside : cursor.Inside) (count : Int) :
    (Uncached.popFront count).EndsWell cursor.bare Cursor.Sound allowed := by
  have fits := clusterOffset_le cursor.content count.toNat
  exact endsWell_of_ok (on_popFront inside count) (inside.holds_back fits).inside
    (inside.holds_front fits).toSound

theorem token_endsWell (inside : cursor.Inside) :
    Uncached.token.EndsWell cursor.bare (fun _ => True) allowed := by
  have ran := on_token inside
  by_cases blank : Text.holdsBlank (firstCluster cursor.content)
  · rw [if_pos blank] at ran
    exact endsWell_of_ok ran inside trivial
  · have fits := clusterOffset_le cursor.content 1
    rw [clusterOffset_one] at fits
    rw [if_neg blank] at ran
    exact endsWell_of_ok ran (inside.holds_back fits).inside trivial

/-! ## Predicates -/

theorem popFrontWhile_endsWell (inside : cursor.Inside) {accepts : Predicate}
    (isAllowed : ∀ asked c error, accepts asked c = .error error → allowed error) :
    (popFrontWhile accepts).EndsWell cursor Cursor.Sound allowed := by
  rcases walkFront_outcome inside accepts with
    ⟨count, fits, walked⟩ | ⟨asked, c, error, failed, walked⟩
  · exact endsWell_of_ok (takeFrontWhile_eq inside fits walked).2 (inside.holds_back fits).inside
      (inside.holds_front fits).toSound
  · exact endsWell_of_error (takeFrontWhile_of_error walked).2 inside
      (isAllowed asked c error failed)

theorem popBackWhile_endsWell (inside : cursor.Inside) {accepts : Predicate}
    (isAllowed : ∀ asked c error, accepts asked c = .error error → allowed error) :
    (popBackWhile accepts).EndsWell cursor Cursor.Sound allowed := by
  rcases walkBack_outcome inside accepts with
    ⟨count, fits, walked⟩ | ⟨asked, c, error, failed, walked⟩
  · have pieceFits : cursor.content.length - count + count ≤ cursor.content.length := by omega
    exact endsWell_of_ok (takeBackWhile_eq inside fits walked).2
      (inside.holds_front (Nat.sub_le _ _)).inside (inside.sound_part pieceFits)
  · exact endsWell_of_error (takeBackWhile_of_error walked).2 inside
      (isAllowed asked c error failed)

theorem takeFrontWhile_endsWell (inside : cursor.Inside) {accepts : Predicate}
    (isAllowed : ∀ asked c error, accepts asked c = .error error → allowed error) :
    (askCursor (·.takeFrontWhile accepts)).EndsWell cursor Reply.Sound allowed := by
  rcases walkFront_outcome inside accepts with
    ⟨count, fits, walked⟩ | ⟨asked, c, error, failed, walked⟩
  · exact askCursor_endsWell inside (takeFrontWhile_eq inside fits walked).1
      (inside.holds_front fits).toSound
  · exact askCursor_endsWell_of_error inside (takeFrontWhile_of_error walked).1
      (isAllowed asked c error failed)

theorem takeBackWhile_endsWell (inside : cursor.Inside) {accepts : Predicate}
    (isAllowed : ∀ asked c error, accepts asked c = .error error → allowed error) :
    (askCursor (·.takeBackWhile accepts)).EndsWell cursor Reply.Sound allowed := by
  rcases walkBack_outcome inside accepts with
    ⟨count, fits, walked⟩ | ⟨asked, c, error, failed, walked⟩
  · have pieceFits : cursor.content.length - count + count ≤ cursor.content.length := by omega
    exact askCursor_endsWell inside (takeBackWhile_eq inside fits walked).1
      (inside.sound_part pieceFits)
  · exact askCursor_endsWell_of_error inside (takeBackWhile_of_error walked).1
      (isAllowed asked c error failed)

/-- A part that is asked for lies in the source, or the operation says where it does not. -/
theorem sub_endsWell (inside : cursor.Inside) (offset : Int) (size : Option Int) :
    (askCursor (·.sub offset size)).EndsWell cursor Reply.Sound fun error =>
      Operation.Refuses cursor (.sub offset size) error ∨
        Operation.Blames (.sub offset size) error := by
  cases made : cursor.sub offset size with
  | ok piece =>
      obtain ⟨pieceInside, rfl⟩ := make_eq_ok_iff.mp made
      exact askCursor_endsWell inside made ⟨pieceInside, coherent_of_cache_empty rfl⟩
  | error error =>
      obtain ⟨outside, rfl⟩ := make_eq_error_iff.mp made
      exact askCursor_endsWell_of_error inside made (Or.inl (.sub rfl rfl outside))

theorem word_endsWell (inside : cursor.Inside) :
    Token.word.EndsWell cursor (fun _ => True) allowed :=
  endsWell_of_ok (on_word inside) (inside.holds_back (headWord_length_le _)).inside trivial

end Operations

namespace Operation

variable {cursor : Cursor}

/-- Whatever operation is asked of a window within its source. -/
theorem runUncached_endsWell (inside : cursor.Inside) (operation : Operation) :
    operation.runUncached.EndsWell cursor.bare Reply.Sound fun error =>
      operation.Refuses cursor.bare error ∨ operation.Blames error := by
  have bareInside : cursor.bare.Inside := inside
  have bareSound : cursor.bare.Sound := inside.holds_bare.toSound
  cases operation with
  | source | start | size | content | placement | written | isNonEmpty =>
      exact ask_endsWell bareInside trivial
  | clusterTexts | clusterCount =>
      exact answer_endsWell (endsWell_of_ok rfl bareInside trivial)
  | clusterAt index =>
      exact answer_endsWell (endsWell_of_ok (on_clusterAt cursor.bare index) bareInside trivial)
  | sub offset size => exact sub_endsWell bareInside offset size
  | copy => exact askCursor_endsWell bareInside bareInside.copy bareSound
  | forget => exact answer_endsWell (endsWell_of_ok rfl bareInside trivial)
  | reopen source => exact answer_endsWell (endsWell_of_ok rfl (inside_whole _) trivial)
  | skipBlanks =>
      have fits := clusterOffset_le cursor.content (leadingBlanks cursor.content)
      exact answer_endsWell
        (endsWell_of_ok (on_skipBlanks inside) (inside.holds_back fits).inside trivial)
  | trimBack =>
      have fits := clusterOffset_le cursor.content (untilTrailingBlanks cursor.content)
      exact askCursor_endsWell bareInside (trimBack_eq bareInside)
        (bareInside.holds_front fits).toSound
  | trim =>
      have pieceSound := inside.sound_part (trimmed_fits cursor.content)
      exact answer_endsWell (endsWell_of_ok (on_trim inside) bareInside pieceSound)
  | takeFrontWhile accepts =>
      apply takeFrontWhile_endsWell bareInside
      intro asked c error failed
      exact Or.inr ⟨accepts, rfl, asked, c, failed⟩
  | takeBackWhile accepts =>
      apply takeBackWhile_endsWell bareInside
      intro asked c error failed
      exact Or.inr ⟨accepts, rfl, asked, c, failed⟩
  | popFrontWhile accepts =>
      apply answer_endsWell
      apply popFrontWhile_endsWell bareInside
      intro asked c error failed
      exact Or.inr ⟨accepts, rfl, asked, c, failed⟩
  | popBackWhile accepts =>
      apply answer_endsWell
      apply popBackWhile_endsWell bareInside
      intro asked c error failed
      exact Or.inr ⟨accepts, rfl, asked, c, failed⟩
  | popFront count => exact answer_endsWell (popFront_endsWell inside count)
  | popBack count =>
      obtain ⟨piece, rest, ran, pieceHolds, restHolds⟩ := popBack_holds bareSound count rfl
      exact answer_endsWell (endsWell_of_ok ran restHolds.inside pieceHolds.toSound)
  | popField delimiter =>
      exact answer_endsWell (cutsFront_endsWell bareInside
        (popField_cutsFront bareInside delimiter) fun _ sound => sound)
  | popField? delimiter =>
      exact attempt_endsWell
        (cutsFront?_endsWell bareInside (popField?_cutsFront? bareInside delimiter))
  | headInt => exact computed_endsWell bareInside (headInt_eq bareInside) trivial
  | headDecimal => exact computed_endsWell bareInside (headDecimal_eq bareInside) trivial
  | popInt? =>
      exact attempt_endsWell (reader_endsWell bareInside (Numeral.integerOf_width_le _)
        (fun _ => trivial) (on_popInt? bareInside))
  | popDecimal? =>
      exact attempt_endsWell (reader_endsWell bareInside (Numeral.decimalReadingOf_width_le _)
        (fun _ => trivial) (on_popDecimal? bareInside))
  | tokenInt =>
      apply answer_endsWell
      apply required_endsWell bareInside (Numeral.integerOf_width_le _) (on_popInt? bareInside)
      intro missing
      exact Or.inl (.tokenInt missing)
  | tokenDecimal =>
      apply answer_endsWell
      apply required_endsWell bareInside (Numeral.decimalReadingOf_width_le _)
        (on_popDecimal? bareInside)
      intro missing
      exact Or.inl (.tokenDecimal missing)
  | tokenWord => exact answer_endsWell (word_endsWell bareInside)
  | tokenCluster => exact answer_endsWell (token_endsWell inside)
  | search kind operand => exact search_endsWell bareInside kind operand

theorem Refuses.of_bare {operation : Operation} {error : Error}
    (refuses : operation.Refuses cursor.bare error) : operation.Refuses cursor error := by
  cases refuses with
  | sub startEq widthEq outside => exact .sub startEq widthEq outside
  | tokenInt missing => exact .tokenInt missing
  | tokenDecimal missing => exact .tokenDecimal missing

end Operation

/-- A step ends as its twin does, and a sound cursor stays sound. -/
theorem sound_of_mirrors {α : Type} {step twin : Edit α} {cursor : Cursor} {good : α → Prop}
    {allowed : Error → Prop} (sound : cursor.Sound) (mirrors : step.Mirrors twin)
    (ends : twin.EndsWell cursor.bare good allowed) :
    (step.on cursor).2.Sound ∧ step.EndsWell cursor good allowed := by
  obtain ⟨same, coherent⟩ := mirrors cursor sound.coherent
  obtain ⟨inside, outcome⟩ := ends
  rw [same] at inside outcome
  exact ⟨⟨inside, coherent⟩, inside, outcome⟩

/-- An operation keeps a cursor sound, yields sound cursors, and fails only as it may. -/
theorem Operation.run_endsWell {cursor : Cursor} (sound : cursor.Sound) (operation : Operation) :
    (operation.run.on cursor).2.Sound ∧
      operation.run.EndsWell cursor Reply.Sound fun error =>
        operation.Refuses cursor error ∨ operation.Blames error := by
  obtain ⟨after, inside, outcome⟩ :=
    sound_of_mirrors sound operation.run_mirrors (operation.runUncached_endsWell sound.inside)
  refine ⟨after, inside, ?_⟩
  cases result : (operation.run.on cursor).1 with
  | ok reply =>
      rw [result] at outcome
      exact outcome
  | error error =>
      rw [result] at outcome
      exact outcome.imp_left .of_bare

end Script

end TextCursor
