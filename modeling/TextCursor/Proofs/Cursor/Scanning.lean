import TextCursor.Cursor.Number
import TextCursor.Cursor.Predicate
import TextCursor.Proofs.Cursor.Removal
import TextCursor.Proofs.Numeral.Scan
import TextCursor.Proofs.Text.Search
import TextCursor.Token

/-!
Contract: operations that scan the source in place, and where they come to.

Owns: that walks, needle searches and number scans stay within the window, so that no read of
the source fails and every window they compute is a part of the one there was.

Does not own: what a predicate answers. It may fail, and then it is the predicate's error.
-/

namespace TextCursor

/-! ## Walks -/

namespace Walk

/-- A walk through a text from its beginning, after the code points `earlier`. -/
def through (accepts : Predicate) (earlier : Text) : Text → Walk
  | [] => ⟨earlier.reverse, .ok earlier.length⟩
  | c :: rest =>
      match accepts earlier c with
      | .error error => ⟨(c :: earlier).reverse, .error error⟩
      | .ok false => ⟨(c :: earlier).reverse, .ok earlier.length⟩
      | .ok true => through accepts (c :: earlier) rest

/-- If the reads come upon the code points of a text, the walk is one through that text. -/
theorem along_eq_through {next : Nat → Except Error Char} (accepts : Predicate) (earlier : Text)
    {text : Text} (reads : ∀ index (inText : index < text.length),
      next (earlier.length + index) = .ok text[index]) :
    along next accepts earlier text.length = through accepts earlier text := by
  induction text generalizing earlier with
  | nil => rfl
  | cons c rest inductionHypothesis =>
      have first : next earlier.length = .ok c := reads 0 (Nat.succ_pos _)
      have further : along next accepts (c :: earlier) rest.length =
          through accepts (c :: earlier) rest := by
        apply inductionHypothesis
        intro index inRest
        have read := reads (index + 1) (Nat.succ_lt_succ inRest)
        rw [← Nat.add_assoc, Nat.add_right_comm] at read
        exact read
      cases answer : accepts earlier c with
      | error error => simp only [List.length_cons, along, through, first, answer]
      | ok accepted =>
          cases accepted with
          | false => simp only [List.length_cons, along, through, first, answer]
          | true => simp only [List.length_cons, along, through, first, answer, further]

/-- A walk accepts what fits, or fails as its predicate does. -/
theorem through_outcome (accepts : Predicate) (earlier text : Text) :
    (∃ count ≤ earlier.length + text.length, (through accepts earlier text).outcome = .ok count) ∨
      ∃ asked c error, accepts asked c = .error error ∧
        (through accepts earlier text).outcome = .error error := by
  induction text generalizing earlier with
  | nil => exact Or.inl ⟨earlier.length, Nat.le_refl _, rfl⟩
  | cons c rest inductionHypothesis =>
      cases answer : accepts earlier c with
      | error error =>
          refine Or.inr ⟨earlier, c, error, answer, ?_⟩
          simp only [through, answer]
      | ok accepted =>
          cases accepted with
          | false =>
              refine Or.inl ⟨earlier.length, Nat.le_add_right _ _, ?_⟩
              simp only [through, answer]
          | true =>
              have longer : (c :: earlier).length + rest.length =
                  earlier.length + (c :: rest).length := by
                rw [List.length_cons, List.length_cons]
                omega
              have further := inductionHypothesis (c :: earlier)
              rw [longer] at further
              simpa only [through, answer] using further

/-- A predicate that always answers the same of a code point accepts the longest run of the code
points that it approves of. -/
theorem through_outcome_of_answers {accepts : Predicate} {verdict : Char → Bool}
    (answers : ∀ earlier c, accepts earlier c = .ok (verdict c)) (earlier text : Text) :
    (through accepts earlier text).outcome =
      .ok (earlier.length + (text.takeWhile verdict).length) := by
  induction text generalizing earlier with
  | nil => rfl
  | cons c rest inductionHypothesis =>
      cases judged : verdict c with
      | false =>
          simp only [through, answers, judged, List.takeWhile_cons, Bool.false_eq_true, if_false,
            List.length_nil, Nat.add_zero]
      | true =>
          simp only [through, answers, judged, List.takeWhile_cons, if_true, inductionHypothesis,
            List.length_cons]
          congr 1
          omega

end Walk

namespace Cursor

open Edit

variable {cursor : Cursor}

/-- The walk at the front is one through the content. -/
theorem walkFront_eq (inside : cursor.Inside) (accepts : Predicate) :
    cursor.walkFront accepts = .through accepts [] cursor.content := by
  have room : cursor.size.toNat = cursor.content.length := by
    rw [inside.size_eq]
    rfl
  rw [walkFront, room]
  apply Walk.along_eq_through
  intro index inContent
  rw [List.length_nil, Nat.zero_add]
  exact inside.spans.read_add inContent

/-- The walk at the back is one through the content read backwards. -/
theorem walkBack_eq (inside : cursor.Inside) (accepts : Predicate) :
    cursor.walkBack accepts = .through accepts [] cursor.content.reverse := by
  have room : cursor.size.toNat = cursor.content.reverse.length := by
    rw [inside.size_eq, List.length_reverse]
    rfl
  rw [walkBack, room]
  apply Walk.along_eq_through
  intro index inContent
  rw [List.length_reverse] at inContent
  have position : cursor.stop - index - 1 =
      cursor.start + (cursor.content.length - 1 - index : Nat) := by
    rw [stop, inside.size_eq]
    omega
  rw [List.length_nil, Nat.zero_add, position, List.getElem_reverse]
  exact inside.spans.read_add (by omega)

theorem walkFront_outcome (inside : cursor.Inside) (accepts : Predicate) :
    (∃ count ≤ cursor.content.length, (cursor.walkFront accepts).outcome = .ok count) ∨
      ∃ asked c error, accepts asked c = .error error ∧
        (cursor.walkFront accepts).outcome = .error error := by
  have walked := Walk.through_outcome accepts [] cursor.content
  rwa [List.length_nil, Nat.zero_add, ← walkFront_eq inside] at walked

theorem walkBack_outcome (inside : cursor.Inside) (accepts : Predicate) :
    (∃ count ≤ cursor.content.length, (cursor.walkBack accepts).outcome = .ok count) ∨
      ∃ asked c error, accepts asked c = .error error ∧
        (cursor.walkBack accepts).outcome = .error error := by
  have walked := Walk.through_outcome accepts [] cursor.content.reverse
  rwa [List.length_nil, Nat.zero_add, List.length_reverse, ← walkBack_eq inside] at walked

/-- A walk's count of code points at the back, as a part of the window. -/
theorem Inside.make_back (inside : cursor.Inside) {count : Nat}
    (fits : count ≤ cursor.content.length) :
    make cursor.source (cursor.stop - count) count =
      .ok (cursor.part (cursor.content.length - count) count) := by
  refine inside.make_part (by omega) ?_ rfl
  rw [stop, inside.size_eq]
  omega

/-- What the four operations with a predicate do if the predicate answers. -/
theorem takeFrontWhile_eq (inside : cursor.Inside) {accepts : Predicate} {count : Nat}
    (fits : count ≤ cursor.content.length)
    (walked : (cursor.walkFront accepts).outcome = .ok count) :
    cursor.takeFrontWhile accepts = .ok (cursor.part 0 count) ∧
      (popFrontWhile accepts).on cursor =
        (.ok (cursor.part 0 count), cursor.part count (cursor.content.length - count)) := by
  have piece : make cursor.source cursor.start count = .ok (cursor.part 0 count) :=
    inside.make_part (by omega) (by simp) rfl
  constructor
  · rw [takeFrontWhile, walked, ok_bind, piece]
  · simp only [popFrontWhile, on_bind, on_get, on_ofExcept, walked, piece, moveTo, on_modify,
      on_pure, inside.size_sub fits]
    rfl

theorem takeFrontWhile_of_error {accepts : Predicate} {error : Error}
    (walked : (cursor.walkFront accepts).outcome = .error error) :
    cursor.takeFrontWhile accepts = .error error ∧
      (popFrontWhile accepts).on cursor = (.error error, cursor) := by
  constructor
  · rw [takeFrontWhile, walked, error_bind]
  · simp only [popFrontWhile, on_bind, on_get, on_ofExcept, walked]

theorem takeBackWhile_eq (inside : cursor.Inside) {accepts : Predicate} {count : Nat}
    (fits : count ≤ cursor.content.length)
    (walked : (cursor.walkBack accepts).outcome = .ok count) :
    cursor.takeBackWhile accepts = .ok (cursor.part (cursor.content.length - count) count) ∧
      (popBackWhile accepts).on cursor =
        (.ok (cursor.part (cursor.content.length - count) count),
          cursor.part 0 (cursor.content.length - count)) := by
  constructor
  · rw [takeBackWhile, walked, ok_bind, inside.make_back fits]
  · simp only [popBackWhile, on_bind, on_get, on_ofExcept, walked, inside.make_back fits, moveTo,
      on_modify, on_pure, inside.size_sub fits]
    simp [part]

theorem takeBackWhile_of_error {accepts : Predicate} {error : Error}
    (walked : (cursor.walkBack accepts).outcome = .error error) :
    cursor.takeBackWhile accepts = .error error ∧
      (popBackWhile accepts).on cursor = (.error error, cursor) := by
  constructor
  · rw [takeBackWhile, walked, error_bind]
  · simp only [popBackWhile, on_bind, on_get, on_ofExcept, walked]

/-- The word at the head of a text. -/
def headWord (text : Text) : Text := text.takeWhile fun c => !Text.isBlank c

theorem headWord_length_le (text : Text) : (headWord text).length ≤ text.length :=
  (List.takeWhile_prefix _).length_le

theorem on_word (inside : cursor.Inside) :
    Token.word.on cursor =
      (.ok (headWord cursor.content), cursor.part (headWord cursor.content).length
        (cursor.content.length - (headWord cursor.content).length)) := by
  have fits := headWord_length_le cursor.content
  have walked : (cursor.walkFront Token.nonBlank).outcome =
      .ok (headWord cursor.content).length := by
    have answers : ∀ earlier c, Token.nonBlank earlier c = .ok !Text.isBlank c := fun _ _ => rfl
    rw [walkFront_eq inside, Walk.through_outcome_of_answers answers, List.length_nil, Nat.zero_add]
    rfl
  have word : cursor.content.take (headWord cursor.content).length = headWord cursor.content :=
    (List.prefix_iff_eq_take.mp (List.takeWhile_prefix _)).symm
  simp only [Token.word, on_bind, (takeFrontWhile_eq inside fits walked).2, on_pure,
    (inside.holds_front fits).content, word]

/-! ## Needles -/

/-- The search that compares every position is a search of the content. -/
theorem on_popBefore? (inside : cursor.Inside) (needle : Text) :
    (popBefore? needle).on cursor =
      match cursor.content.find? needle with
      | some offset => (.ok (some (cursor.part 0 offset)), cursor.part (offset + needle.length)
          (cursor.content.length - (offset + needle.length)))
      | none => (.ok none, cursor) := by
  obtain ⟨behind, rest⟩ := inside.spans.drop_start
  have searched := Text.findBefore?_append cursor.content behind needle inside.spans.stop_eq
  rw [← rest] at searched
  cases found : cursor.content.find? needle with
  | none =>
      rw [found, Option.map_none] at searched
      simp only [popBefore?, on_bind, on_get, searched, on_pure]
  | some offset =>
      have fits := Text.find?_add_length_le found
      have popped := on_popSplit inside (Nat.le_of_add_right_le fits) fits
      have offsetEq : cursor.start + offset - cursor.start = offset := by omega
      rw [found, Option.map_some] at searched
      rw [Int.natCast_add] at popped
      simp only [popBefore?, on_bind, on_get, searched, offsetEq, popped, on_pure]

/-- The search that never compares the last position is a search of the content without its last
code point. If it finds nothing the whole window goes. -/
theorem on_popBefore (inside : cursor.Inside) (needle : Text) :
    (popBefore needle).on cursor =
      match Text.find? cursor.content.dropLast needle with
      | some offset => (.ok (cursor.part 0 offset), cursor.part (offset + needle.length)
          (cursor.content.length - (offset + needle.length)))
      | none => (.ok cursor.bare, cursor.part cursor.content.length 0) := by
  by_cases short : cursor.content.length < needle.length
  · have noPlace : Text.find? cursor.content.dropLast needle = none := by
      apply Text.find?_of_length_lt
      rw [List.length_dropLast]
      omega
    have noRoom : cursor.size < needle.length := by
      rw [inside.size_eq]
      omega
    simp only [popBefore, on_bind, on_get, if_pos noRoom, noPlace, on_popAll inside]
  · have room : ¬cursor.size < needle.length := by
      rw [inside.size_eq]
      omega
    obtain ⟨behind, rest⟩ := inside.spans.drop_start
    have stops := slide_eq cursor.content behind needle (Nat.le_of_not_lt short)
    rw [← rest, ← inside.size_eq] at stops
    cases found : Text.find? cursor.content.dropLast needle with
    | none =>
        -- The search came to the last position, and the needle there is part of the piece.
        have pastEnd : ((cursor.content.length - needle.length : Nat) : Int) + needle.length =
            cursor.size := by
          rw [inside.size_eq]
          omega
        have popped := on_popSplit inside (Nat.le_refl _) (Nat.le_refl _)
        rw [← inside.size_eq, Nat.sub_self, inside.part_whole] at popped
        rw [found, Option.getD_none] at stops
        simp only [popBefore, on_bind, on_get, if_neg room, stops, pastEnd, if_true, popped]
    | some offset =>
        have fits := Text.find?_add_length_le found
        rw [List.length_dropLast] at fits
        have beforeFits : offset ≤ cursor.content.length := by omega
        have afterFits : offset + needle.length ≤ cursor.content.length := by omega
        have popped := on_popSplit inside beforeFits afterFits
        have before : (if (offset : Int) + needle.length = cursor.size then
            (offset : Int) + needle.length else offset) = offset := by
          rw [inside.size_eq]
          split
          · omega
          · rfl
        rw [Int.natCast_add] at popped
        rw [found, Option.getD_some] at stops
        simp only [popBefore, on_bind, on_get, if_neg room, stops, before, popped]

theorem popBefore_cutsFront (inside : cursor.Inside) (needle : Text) :
    CutsFront (popBefore needle) id cursor := by
  cases found : Text.find? cursor.content.dropLast needle with
  | none =>
      refine .congr ?_ (popAll_cutsFront inside)
      rw [on_popBefore inside, found, on_popAll inside]
  | some offset =>
      have fits := Text.find?_add_length_le found
      rw [List.length_dropLast] at fits
      refine ⟨offset, offset + needle.length, by omega, by omega, ?_⟩
      rw [on_popBefore inside, found]
      rfl

theorem popBefore?_cutsFront? (inside : cursor.Inside) (needle : Text) :
    CutsFront? (popBefore? needle) cursor := by
  cases found : cursor.content.find? needle with
  | none =>
      left
      rw [on_popBefore? inside, found]
  | some offset =>
      right
      have fits := Text.find?_add_length_le found
      refine ⟨offset, offset + needle.length, by omega, fits, ?_⟩
      rw [on_popBefore? inside, found]

/-! ## Numbers -/

theorem headInt_eq (inside : cursor.Inside) :
    cursor.headInt = .ok
      (if (Numeral.integerOf cursor.content).found then (Numeral.integerOf cursor.content).value
      else 0) := by
  rw [headInt, Numeral.readInt_eq inside.spans, ok_bind, pure_eq_ok]

theorem headDecimal_eq (inside : cursor.Inside) :
    cursor.headDecimal = .ok
      (if (Numeral.decimalReadingOf cursor.content).found then
        (Numeral.decimalReadingOf cursor.content).value
      else .zero false) := by
  rw [headDecimal, Numeral.readDecimal_eq inside.spans, ok_bind, pure_eq_ok]

/-- Moving past a reading leaves what stands behind it. -/
theorem on_popReading {α : Type} (inside : cursor.Inside) {reading : Numeral.Reading α}
    (consumed : reading.consumed = reading.width) (fits : reading.width ≤ cursor.content.length) :
    (popReading reading).on cursor =
      if reading.found then
        (.ok (some reading.value), cursor.part reading.width (cursor.content.length - reading.width))
      else (.ok none, cursor) := by
  rw [popReading]
  cases reading.found with
  | false => rfl
  | true =>
      simp only [if_pos, on_bind, on_get, moveTo, on_modify, on_pure, consumed,
        inside.size_sub fits]
      rfl

theorem on_popInt? (inside : cursor.Inside) :
    popInt?.on cursor =
      if (Numeral.integerOf cursor.content).found then
        (.ok (some (Numeral.integerOf cursor.content).value),
          cursor.part (Numeral.integerOf cursor.content).width
            (cursor.content.length - (Numeral.integerOf cursor.content).width))
      else (.ok none, cursor) := by
  rw [← on_popReading inside (Numeral.integerOf_consumed _) (Numeral.integerOf_width_le _)]
  simp only [popInt?, on_bind, on_get, Numeral.readInt_eq inside.spans, on_ofExcept]

theorem on_popDecimal? (inside : cursor.Inside) :
    popDecimal?.on cursor =
      if (Numeral.decimalReadingOf cursor.content).found then
        (.ok (some (Numeral.decimalReadingOf cursor.content).value),
          cursor.part (Numeral.decimalReadingOf cursor.content).width
            (cursor.content.length - (Numeral.decimalReadingOf cursor.content).width))
      else (.ok none, cursor) := by
  rw [← on_popReading inside (Numeral.decimalReadingOf_consumed _)
    (Numeral.decimalReadingOf_width_le _)]
  simp only [popDecimal?, on_bind, on_get, Numeral.readDecimal_eq inside.spans, on_ofExcept]

/-- A value that has to be there fails the token where it is not, and nothing moves. -/
theorem on_required {α : Type} {reader : Edit (Option α)} {found : Bool} {value : α}
    {after : Cursor} (kind : Text)
    (ran : reader.on cursor = if found then (.ok (some value), after) else (.ok none, cursor)) :
    (Token.required kind reader).on cursor =
      if found then (.ok value, after) else (.error (.unparsable kind cursor.content), cursor) := by
  cases found with
  | true =>
      rw [if_pos rfl] at ran
      simp only [Token.required, on_bind, ran, on_pure, if_true]
  | false =>
      rw [if_neg Bool.false_ne_true] at ran
      simp only [Token.required, on_bind, ran, on_get, on_throw, Bool.false_eq_true, if_false]

end Cursor

end TextCursor
