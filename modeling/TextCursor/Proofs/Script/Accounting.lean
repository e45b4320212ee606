import Mathlib.Data.List.Infix
import TextCursor.Proofs.Script.Deque
import TextCursor.Proofs.Script.Failure

/-!
Contract: no text is lost, duplicated or exposed by removals.

Owns: the operations that remove text, from which end, and past which delimiter; the record of a
run of them; and the account that every run keeps: what was removed at the front in order, what is
left, and what was removed at the back in reverse order make up the text that there was.

Does not own: where an operation cuts. The account holds wherever it does.

Each removal splits the window that it finds, so what it leaves is the middle of the account, and
the next removal splits that.
-/

namespace TextCursor

namespace Cursor

/-- A window that lies in another one over the same source. -/
structure LiesIn (inner outer : Cursor) : Prop where
  source : inner.source = outer.source
  start : outer.start ≤ inner.start
  size : 0 ≤ inner.size
  stop : inner.stop ≤ outer.stop

theorem LiesIn.trans {inner middle outer : Cursor} (first : inner.LiesIn middle)
    (second : middle.LiesIn outer) : inner.LiesIn outer where
  source := first.source.trans second.source
  start := Int.le_trans second.start first.start
  size := first.size
  stop := Int.le_trans first.stop second.stop

namespace Inside

variable {cursor : Cursor}

theorem liesIn_self (inside : cursor.Inside) : cursor.LiesIn cursor :=
  ⟨rfl, Int.le_refl _, inside.2.1, Int.le_refl _⟩

theorem part_liesIn (inside : cursor.Inside) {offset size : Nat}
    (fits : offset + size ≤ cursor.content.length) : (cursor.part offset size).LiesIn cursor where
  source := rfl
  start := Int.le_add_of_nonneg_right (Int.natCast_nonneg offset)
  size := Int.natCast_nonneg size
  stop := by
    have size_eq := inside.size_eq
    simp only [stop, Cursor.part]
    omega

end Inside

end Cursor

namespace Script

open Edit Cursor

/-! ## Removals -/

/-- The end of the window that an operation removes text from. -/
def Operation.side? : Operation → Option Side
  | popFront _ | popFrontWhile _ | popField _ | popField? _ | popInt? | popDecimal?
  | search .popBefore _ | search .popBefore? _ => some .front
  | popBack _ | popBackWhile _ => some .back
  | _ => none

/-- The text that an operation may move past without yielding it. -/
def Operation.delimiter : Operation → Text
  | popField delimiter | popField? delimiter => delimiter
  | search .popBefore needle | search .popBefore? needle => needle
  | _ => []

/-- The value that was replied, unless the reply tells of a failure. -/
def yielded? : Except Error Reply → Option Value
  | .ok (.value value) => some value
  | .ok (.outcome outcome) => if outcome.success then outcome.data else none
  | _ => none

/-- The cursor that was replied, if one was. -/
def piece? (reply : Except Error Reply) : Option Cursor :=
  match yielded? reply with
  | some (.cursor piece) => some piece
  | _ => none

/-- An operation of a run: the window that it found, its reply, and the window that it left. -/
structure Popped where
  operation : Operation
  window : Cursor
  reply : Except Error Reply
  left : Cursor

namespace Popped

/-- The text that was yielded. For a number that is the sign, the digits and the point that it was
read off. -/
def text (popped : Popped) : Text :=
  match yielded? popped.reply with
  | some (.cursor piece) => piece.content
  | some (.int _) =>
      let parts := Numeral.Parts.of popped.window.content
      parts.sign ++ parts.whole
  | some (.real _) => (Numeral.Parts.of popped.window.content).word
  | _ => []

/-- The delimiter, if what was left does not begin where the yielded cursor ends. -/
def skipped (popped : Popped) : Text :=
  match piece? popped.reply with
  | some piece => if popped.left.start = piece.stop then [] else popped.operation.delimiter
  | none => []

/-- What went at the front. -/
def front (popped : Popped) : Text :=
  if popped.operation.side? = some .front then popped.text ++ popped.skipped else []

/-- What went at the back. -/
def back (popped : Popped) : Text :=
  if popped.operation.side? = some .back then popped.text else []

/-- What went and what is left make up the text that there was, in windows that lie in the one that
there was. -/
structure Accounted (popped : Popped) : Prop where
  content : popped.window.content = popped.front ++ popped.left.content ++ popped.back
  left : popped.left.LiesIn popped.window
  piece : ∀ piece ∈ piece? popped.reply, piece.LiesIn popped.window

end Popped

def Operation.popped (operation : Operation) (cursor : Cursor) : Popped :=
  ⟨operation, cursor, (operation.run.on cursor).1, (operation.run.on cursor).2⟩

/-- Operations one after another on a cursor, and the cursor that they leave. -/
def popAlong (cursor : Cursor) : List Operation → List Popped × Cursor
  | [] => ([], cursor)
  | operation :: later =>
      let popped := operation.popped cursor
      let further := popAlong popped.left later
      (popped :: further.1, further.2)

/-! ## The account of one removal -/

section Account

variable {cursor left : Cursor} {operation : Operation} {reply : Except Error Reply}

/-- Where nothing is yielded and nothing moves, nothing went. -/
theorem accounted_of_stays (inside : cursor.Inside) (nothing : yielded? reply = none) :
    Popped.Accounted ⟨operation, cursor, reply, cursor⟩ where
  content := by
    simp only [Popped.front, Popped.back, Popped.text, Popped.skipped, piece?, nothing,
      List.append_nil, ite_self, List.nil_append]
  left := inside.liesIn_self
  piece := by simp only [piece?, nothing, Option.not_mem_none, false_implies, implies_true]

/-- Where the window is left from an offset on, all before the offset has to have gone at the
front. -/
theorem accounted_of_rest (inside : cursor.Inside) {after : Nat}
    (fits : after ≤ cursor.content.length)
    (rest : left.bare = cursor.part after (cursor.content.length - after))
    (isFront : operation.side? = some .front)
    (went : Popped.text ⟨operation, cursor, reply, left⟩ ++
      Popped.skipped ⟨operation, cursor, reply, left⟩ = cursor.content.take after)
    (piece : ∀ piece ∈ piece? reply, piece.LiesIn cursor) :
    Popped.Accounted ⟨operation, cursor, reply, left⟩ where
  content := by
    have behind : left.content = cursor.content.drop after := by
      rw [← bare_content, rest, (inside.holds_back fits).content]
    have notBack : operation.side? ≠ some .back := by simp [isFront]
    rw [Popped.front, Popped.back, if_pos isFront, if_neg notBack, went, behind, List.append_nil,
      List.take_append_drop]
  left := by
    have lies := inside.part_liesIn (show after + (cursor.content.length - after) ≤ _ by omega)
    rw [← rest] at lies
    exact ⟨lies.source, lies.start, lies.size, lies.stop⟩
  piece := piece

/-- A piece from the front, and behind it nothing or the delimiter. -/
theorem accounted_of_front (inside : cursor.Inside) {before after : Nat}
    (beforeFits : before ≤ cursor.content.length) (afterFits : after ≤ cursor.content.length)
    (yields : yielded? reply = some (.cursor (cursor.part 0 before)))
    (rest : left.bare = cursor.part after (cursor.content.length - after))
    (isFront : operation.side? = some .front)
    (between : after = before ∨
      cursor.content.take after = cursor.content.take before ++ operation.delimiter) :
    Popped.Accounted ⟨operation, cursor, reply, left⟩ := by
  have replied : piece? reply = some (cursor.part 0 before) := by rw [piece?, yields]
  refine accounted_of_rest inside afterFits rest isFront ?_ ?_
  · have start_eq : left.start = cursor.start + after := congrArg Cursor.start rest
    have stop_eq : (cursor.part 0 before).stop = cursor.start + before := by
      simp [stop, Cursor.part]
    have text_eq : Popped.text ⟨operation, cursor, reply, left⟩ = cursor.content.take before := by
      simp only [Popped.text, yields, (inside.holds_front beforeFits).content]
    simp only [text_eq, Popped.skipped, replied, start_eq, stop_eq]
    by_cases met : after = before
    · rw [met, if_pos rfl, List.append_nil]
    · have apart : ¬cursor.start + (after : Int) = cursor.start + before := by omega
      rw [if_neg apart, between.resolve_left met]
  · intro piece replied'
    obtain rfl := Option.some.inj (replied.symm.trans replied')
    exact inside.part_liesIn (by omega)

/-- A piece from the back. -/
theorem accounted_of_back {piece : Cursor} (isBack : operation.side? = some .back)
    (yields : yielded? reply = some (.cursor piece))
    (content : cursor.content = left.content ++ piece.content) (leftLies : left.LiesIn cursor)
    (pieceLies : piece.LiesIn cursor) : Popped.Accounted ⟨operation, cursor, reply, left⟩ where
  content := by
    have notFront : operation.side? ≠ some .front := by simp [isBack]
    simp only [Popped.front, Popped.back, if_neg notFront, if_pos isBack, Popped.text, yields,
      content, List.nil_append]
  left := leftLies
  piece := by
    intro other replied
    rw [piece?, yields] at replied
    obtain rfl := Option.some.inj replied
    exact pieceLies

end Account

/-! ## Cuts at the front -/

/-- The step yields a piece from the front, and leaves what stands behind the piece or behind a
delimiter that follows the piece. -/
def CutsBefore {α : Type} (step : Edit α) (value : Cursor → α) (delimiter : Text)
    (cursor : Cursor) : Prop :=
  ∃ (before after : Nat) (left : Cursor),
    before ≤ cursor.content.length ∧ after ≤ cursor.content.length ∧
      step.on cursor = (.ok (value (cursor.part 0 before)), left) ∧
      left.bare = cursor.part after (cursor.content.length - after) ∧
      (after = before ∨ cursor.content.take after = cursor.content.take before ++ delimiter)

/-- The text up to the end of a place where another one stands. -/
theorem take_add_length {text other : Text} {offset : Nat} (here : other <+: text.drop offset) :
    text.take (offset + other.length) = text.take offset ++ other := by
  rw [List.take_add, ← List.prefix_iff_eq_take.mp here]

theorem take_fieldEnds? {delimiter text : Text} {ends : Nat × Nat}
    (found : fieldEnds? delimiter text = some ends) :
    text.take ends.2 = text.take ends.1 ++ delimiter := by
  obtain ⟨⟨before, after⟩, cut, rfl⟩ := Option.map_eq_some_iff.mp found
  apply take_add_length
  rw [text_eq_of_cut cut, List.append_assoc, List.drop_append_length]
  exact List.prefix_append _ _

theorem take_find? {needle text : Text} {offset : Nat} (found : text.find? needle = some offset) :
    text.take (offset + needle.length) = text.take offset ++ needle :=
  take_add_length (Text.find?_eq_some_iff.mp found).1

/-- What an integer is read off is what its reading takes up. -/
theorem take_integer (text : Text) :
    (Numeral.Parts.of text).sign ++ (Numeral.Parts.of text).whole =
      text.take (Numeral.integerOf text).width := by
  have word := Numeral.Parts.word_isPrefix text
  rw [Numeral.Parts.word, List.append_assoc] at word
  have begins := (List.prefix_append _ _).trans word
  rw [List.prefix_iff_eq_take, List.length_append] at begins
  exact begins

theorem take_decimal (text : Text) :
    (Numeral.Parts.of text).word = text.take (Numeral.decimalReadingOf text).width :=
  List.prefix_iff_eq_take.mp (Numeral.Parts.word_isPrefix text)

section Cuts

variable {cursor : Cursor}

theorem popFront_cutsBefore (sound : cursor.Sound) (count : Int) (delimiter : Text) :
    CutsBefore (popFront count) id delimiter cursor := by
  have fits := clusterOffset_le cursor.content count.toNat
  obtain ⟨same, -⟩ := popFront_mirrors count cursor sound.coherent
  rw [on_popFront sound.inside] at same
  obtain ⟨yields, rest⟩ := Prod.mk.inj same
  exact ⟨_, _, _, fits, fits, Prod.ext yields.symm rfl, rest.symm, Or.inl rfl⟩

theorem popAll_cutsBefore (inside : cursor.Inside) {step : Edit Cursor} (delimiter : Text)
    (ran : step.on cursor = (.ok cursor.bare, cursor.part cursor.content.length 0)) :
    CutsBefore step id delimiter cursor := by
  refine ⟨cursor.content.length, cursor.content.length, cursor.part cursor.content.length 0,
    Nat.le_refl _, Nat.le_refl _, ?_, ?_, Or.inl rfl⟩
  · rw [ran, inside.part_whole]
    rfl
  · rw [Nat.sub_self]
    rfl

theorem popField_cutsBefore (inside : cursor.Inside) (delimiter : Text) :
    CutsBefore (popField delimiter) id delimiter cursor := by
  have ran := on_popField inside delimiter
  cases found : fieldEnds? delimiter cursor.content with
  | none =>
      rw [found] at ran
      exact popAll_cutsBefore inside delimiter ran
  | some ends =>
      rw [found] at ran
      obtain ⟨beforeFits, afterFits⟩ := fieldEnds?_fits found
      exact ⟨_, _, _, beforeFits, afterFits, ran, rfl, Or.inr (take_fieldEnds? found)⟩

theorem popField?_cutsBefore (inside : cursor.Inside) (delimiter : Text) :
    (popField? delimiter).on cursor = (.ok none, cursor) ∨
      CutsBefore (popField? delimiter) some delimiter cursor := by
  have ran := on_popField? inside delimiter
  cases found : fieldEnds? delimiter cursor.content with
  | none =>
      rw [found] at ran
      exact Or.inl ran
  | some ends =>
      rw [found] at ran
      obtain ⟨beforeFits, afterFits⟩ := fieldEnds?_fits found
      exact Or.inr ⟨_, _, _, beforeFits, afterFits, ran, rfl, Or.inr (take_fieldEnds? found)⟩

theorem popBefore_cutsBefore (inside : cursor.Inside) (needle : Text) :
    CutsBefore (popBefore needle) id needle cursor := by
  have ran := on_popBefore inside needle
  cases found : Text.find? cursor.content.dropLast needle with
  | none =>
      rw [found] at ran
      exact popAll_cutsBefore inside needle ran
  | some offset =>
      rw [found] at ran
      have fits := Text.find?_add_length_le found
      rw [List.length_dropLast] at fits
      -- What stands in the text without its last code point stands in the text.
      have here : needle <+: cursor.content.drop offset :=
        (Text.find?_eq_some_iff.mp found).1.trans
          (List.IsPrefix.drop (List.dropLast_prefix cursor.content) offset)
      exact ⟨_, _, _, by omega, by omega, ran, rfl, Or.inr (take_add_length here)⟩

theorem popBefore?_cutsBefore (inside : cursor.Inside) (needle : Text) :
    (popBefore? needle).on cursor = (.ok none, cursor) ∨
      CutsBefore (popBefore? needle) some needle cursor := by
  have ran := on_popBefore? inside needle
  cases found : cursor.content.find? needle with
  | none =>
      rw [found] at ran
      exact Or.inl ran
  | some offset =>
      rw [found] at ran
      have fits := Text.find?_add_length_le found
      exact Or.inr ⟨_, _, _, by omega, fits, ran, rfl, Or.inr (take_find? found)⟩

/-! ## Operations -/

variable {operation : Operation}

theorem Operation.popped_eq (operation : Operation) {step : Edit Reply} (runs : operation.run = step)
    {reply : Except Error Reply} {left : Cursor} (ran : step.on cursor = (reply, left)) :
    operation.popped cursor = ⟨operation, cursor, reply, left⟩ := by
  rw [popped, runs, ran]

theorem accounted_of_answer (inside : cursor.Inside) {step : Edit Cursor}
    (isFront : operation.side? = some .front)
    (cuts : CutsBefore step id operation.delimiter cursor)
    (runs : operation.run = answer .cursor step) : (operation.popped cursor).Accounted := by
  obtain ⟨before, after, left, beforeFits, afterFits, ran, rest, between⟩ := cuts
  rw [operation.popped_eq runs (on_answer .cursor ran)]
  exact accounted_of_front inside beforeFits afterFits rfl rest isFront between

theorem accounted_of_attempt (inside : cursor.Inside) {step : Edit (Option Cursor)}
    (isFront : operation.side? = some .front)
    (either : step.on cursor = (.ok none, cursor) ∨
      CutsBefore step some operation.delimiter cursor)
    (runs : operation.run = attempt .cursor step) : (operation.popped cursor).Accounted := by
  rcases either with nothing | ⟨before, after, left, beforeFits, afterFits, ran, rest, between⟩
  · rw [operation.popped_eq runs (on_attempt .cursor nothing)]
    exact accounted_of_stays inside rfl
  · rw [operation.popped_eq runs (on_attempt .cursor ran)]
    exact accounted_of_front inside beforeFits afterFits rfl rest isFront between

/-- A number that is taken or not there. -/
theorem accounted_of_number {α : Type} {value : α → Value} {step : Edit (Option α)}
    {isThere : Bool} {found : α} {width : Nat} (inside : cursor.Inside)
    (isFront : operation.side? = some .front) (fits : width ≤ cursor.content.length)
    (ran : step.on cursor =
      if isThere then (.ok (some found), cursor.part width (cursor.content.length - width))
      else (.ok none, cursor))
    (noPiece : piece? (.ok (.outcome (.found (value found)))) = none)
    (text : ∀ left, Popped.text ⟨operation, cursor, .ok (.outcome (.found (value found))), left⟩ =
      cursor.content.take width)
    (runs : operation.run = attempt value step) : (operation.popped cursor).Accounted := by
  cases isThere with
  | false =>
      rw [operation.popped_eq runs (on_attempt value ran)]
      exact accounted_of_stays inside rfl
  | true =>
      have attempted : (attempt value step).on cursor =
          (.ok (.outcome (.found (value found))),
            cursor.part width (cursor.content.length - width)) := on_attempt value ran
      rw [operation.popped_eq runs attempted]
      apply accounted_of_rest inside fits rfl isFront
      · simp only [text, Popped.skipped, noPiece, List.append_nil]
      · intro piece replied
        exact absurd (replied.symm.trans noPiece) (Option.some_ne_none piece)

theorem popFrontWhile_accounted (inside : cursor.Inside) (accepts : Predicate) :
    (Operation.popped (.popFrontWhile accepts) cursor).Accounted := by
  rcases walkFront_outcome inside accepts with
    ⟨count, fits, walked⟩ | ⟨asked, c, error, failed, walked⟩
  · have ran := (takeFrontWhile_eq inside fits walked).2
    exact accounted_of_answer inside rfl ⟨_, _, _, fits, fits, ran, rfl, Or.inl rfl⟩ rfl
  · have ran := on_answer .cursor (takeFrontWhile_of_error walked).2
    rw [Operation.popped_eq (.popFrontWhile accepts) rfl ran]
    exact accounted_of_stays inside rfl

theorem popBackWhile_accounted (inside : cursor.Inside) (accepts : Predicate) :
    (Operation.popped (.popBackWhile accepts) cursor).Accounted := by
  rcases walkBack_outcome inside accepts with
    ⟨count, fits, walked⟩ | ⟨asked, c, error, failed, walked⟩
  · have ran := on_answer .cursor (takeBackWhile_eq inside fits walked).2
    have front := inside.holds_front (Nat.sub_le cursor.content.length count)
    have back := inside.holds_back (Nat.sub_le cursor.content.length count)
    rw [Nat.sub_sub_self fits] at back
    rw [Operation.popped_eq (.popBackWhile accepts) rfl ran]
    apply accounted_of_back rfl rfl
    · rw [front.content, back.content, List.take_append_drop]
    · exact inside.part_liesIn (by omega)
    · exact inside.part_liesIn (by omega)
  · have ran := on_answer .cursor (takeBackWhile_of_error walked).2
    rw [Operation.popped_eq (.popBackWhile accepts) rfl ran]
    exact accounted_of_stays inside rfl

/-- Each of the two cursors that `popBack` leads to is a part of the window, or all of it. -/
theorem popBack_liesIn (inside : cursor.Inside) {count : Int} {piece left : Cursor}
    (ran : (popBack count).on cursor = (.ok piece, left)) :
    left.LiesIn cursor ∧ piece.LiesIn cursor := by
  have fits : lastOffset count cursor.content ≤ cursor.content.length := clusterOffset_le _ _
  rw [on_popBack inside] at ran
  split at ran
  next =>
      obtain ⟨⟨⟩, rfl⟩ := Prod.mk.inj ran
      exact ⟨inside.liesIn_self, inside.part_liesIn (Nat.zero_le _)⟩
  next =>
      split at ran
      next =>
          obtain ⟨⟨⟩, rfl⟩ := Prod.mk.inj ran
          rw [← inside.part_whole]
          exact ⟨inside.part_liesIn (by omega), inside.part_liesIn (by omega)⟩
      next =>
          obtain ⟨⟨⟩, rfl⟩ := Prod.mk.inj ran
          exact ⟨inside.part_liesIn (by omega), inside.part_liesIn (by omega)⟩

/-- Each removal from either end accounts for the text of the window. -/
theorem Operation.popped_accounted (sound : cursor.Sound) {side : Side}
    (removes : operation.side? = some side) : (operation.popped cursor).Accounted := by
  have inside := sound.inside
  cases operation with
  | popFront count => exact accounted_of_answer inside rfl (popFront_cutsBefore sound count _) rfl
  | popFrontWhile accepts => exact popFrontWhile_accounted inside accepts
  | popField delimiter =>
      exact accounted_of_answer inside rfl (popField_cutsBefore inside delimiter) rfl
  | popField? delimiter =>
      exact accounted_of_attempt inside rfl (popField?_cutsBefore inside delimiter) rfl
  | popInt? =>
      refine accounted_of_number inside rfl (Numeral.integerOf_width_le _) (on_popInt? inside) rfl
        ?_ rfl
      exact fun _ => take_integer cursor.content
  | popDecimal? =>
      refine accounted_of_number inside rfl (Numeral.decimalReadingOf_width_le _)
        (on_popDecimal? inside) rfl ?_ rfl
      exact fun _ => take_decimal cursor.content
  | popBack count =>
      obtain ⟨piece, left, ran, pieceHolds, leftHolds⟩ := popBack_holds sound count rfl
      obtain ⟨leftLies, pieceLies⟩ := popBack_liesIn inside ran
      rw [popped_eq (.popBack count) rfl (on_answer .cursor ran)]
      apply accounted_of_back rfl rfl
      · rw [pieceHolds.content, leftHolds.content, List.take_append_drop]
      · exact leftLies
      · exact pieceLies
  | popBackWhile accepts => exact popBackWhile_accounted inside accepts
  | search kind needle =>
      cases kind with
      | popBefore =>
          exact accounted_of_answer inside rfl (popBefore_cutsBefore inside needle) rfl
      | popBefore? =>
          exact accounted_of_attempt inside rfl (popBefore?_cutsBefore inside needle) rfl
      | offsetOf | reads | readsIgnoringCase | beginsWith | endsWith => contradiction
  | _ => contradiction

end Cuts

/-! ## The account of a run -/

/-- What a run removed at both ends and what it left make up the text that it found. -/
theorem content_eq_of_popAlong {cursor : Cursor} (sound : cursor.Sound)
    {operations : List Operation}
    (removes : ∀ operation ∈ operations, operation.side?.isSome) :
    cursor.content = (popAlong cursor operations).1.flatMap Popped.front ++
      (popAlong cursor operations).2.content ++
      (popAlong cursor operations).1.reverse.flatMap Popped.back := by
  induction operations generalizing cursor with
  | nil => simp [popAlong]
  | cons operation later inductionHypothesis =>
      obtain ⟨first, others⟩ := List.forall_mem_cons.mp removes
      obtain ⟨side, isSide⟩ := Option.isSome_iff_exists.mp first
      have leftSound : (operation.popped cursor).left.Sound := (operation.run_endsWell sound).1
      have further := inductionHypothesis leftSound others
      simp only [popAlong, List.flatMap_cons, List.reverse_cons, List.flatMap_append,
        List.flatMap_nil, List.append_nil]
      calc cursor.content
        _ = (operation.popped cursor).front ++ (operation.popped cursor).left.content ++
              (operation.popped cursor).back := (operation.popped_accounted sound isSide).content
        _ = _ := by
            rw [further]
            simp only [List.append_assoc]

/-- No window of a run reaches out of the one that the run began with. -/
theorem liesIn_of_popAlong {cursor : Cursor} (sound : cursor.Sound) {operations : List Operation}
    (removes : ∀ operation ∈ operations, operation.side?.isSome) :
    (popAlong cursor operations).2.LiesIn cursor ∧
      ∀ popped ∈ (popAlong cursor operations).1, popped.left.LiesIn cursor ∧
        ∀ piece ∈ piece? popped.reply, piece.LiesIn cursor := by
  induction operations generalizing cursor with
  | nil => exact ⟨sound.inside.liesIn_self, by simp [popAlong]⟩
  | cons operation later inductionHypothesis =>
      obtain ⟨first, others⟩ := List.forall_mem_cons.mp removes
      obtain ⟨side, isSide⟩ := Option.isSome_iff_exists.mp first
      have leftSound : (operation.popped cursor).left.Sound := (operation.run_endsWell sound).1
      have account := operation.popped_accounted sound isSide
      obtain ⟨lastLies, further⟩ := inductionHypothesis leftSound others
      refine ⟨lastLies.trans account.left, ?_⟩
      intro popped member
      rcases List.mem_cons.mp member with rfl | inLater
      · exact ⟨account.left, account.piece⟩
      · obtain ⟨leftLies, pieceLies⟩ := further popped inLater
        refine ⟨leftLies.trans account.left, ?_⟩
        intro piece replied
        exact (pieceLies piece replied).trans account.left

/-- From any cursor that a script made, in whatever state, any run of removals keeps account of the
text: what went at the front in order, each piece with the delimiter that was passed behind it, then
what is left, then what went at the back in reverse order. All of it stands in windows over the same
source that lie in the one there was. -/
theorem Reachable.popAlong_accounts {cursor : Cursor} (reachable : Reachable cursor)
    {operations : List Operation} (removes : ∀ operation ∈ operations, operation.side?.isSome) :
    let run := popAlong cursor operations
    cursor.content =
        run.1.flatMap Popped.front ++ run.2.content ++ run.1.reverse.flatMap Popped.back ∧
      run.2.LiesIn cursor ∧
      ∀ popped ∈ run.1, popped.left.LiesIn cursor ∧
        ∀ piece ∈ piece? popped.reply, piece.LiesIn cursor :=
  ⟨content_eq_of_popAlong reachable.sound removes, liesIn_of_popAlong reachable.sound removes⟩

/-- A number, an empty field, a needle inside the window, one at its end, which is part of the
piece, and one that is missing. -/
theorem popAlong_accounts_of_part :
    let cursor : Cursor := { source := "x+42,a::b🇩🇪🇫🇷z".toList, start := 1, size := 12 }
    let operations : List Operation := [.popInt?, .popField [','], .search .popBefore? "::".toList,
      .popBack 1, .search .popBefore "🇩🇪".toList, .popField? [',']]
    let run := popAlong cursor operations
    Reachable cursor ∧
      run.1.map Popped.front = ["+42", ",", "a::", "", "b🇩🇪", ""].map String.toList ∧
      run.1.map Popped.back = ["", "", "", "🇫🇷", "", ""].map String.toList ∧
      cursor.content =
        run.1.flatMap Popped.front ++ run.2.content ++ run.1.reverse.flatMap Popped.back := by
  intro cursor operations run
  have reachable : Reachable cursor :=
    ⟨[⟨none, some "part", .create "x+42,a::b🇩🇪🇫🇷z".toList 1 (some 12)⟩], by decide +kernel⟩
  have removes : ∀ operation ∈ operations, operation.side?.isSome := by
    simp [operations, Operation.side?]
  exact ⟨reachable, by decide +kernel, by decide +kernel,
    (reachable.popAlong_accounts removes).1⟩

end Script

end TextCursor
