import TextCursor.Proofs.Cursor.Scanning
import TextCursor.Template.Parser

/-!
Contract: what a template of token parsers reads from a text.

Owns: layouts, which say for each slot what stands before it and what fills it; the reading of a
layout, as a recursion on the text that is left; and that a token parser takes from a window what
that recursion takes from the window's text.

Does not own: readers, and the pool in which they apply each other.
-/

namespace TextCursor.Template

open Edit Cursor

mutual

/-- What fills a slot: a token, or the values of an inner layout. -/
inductive Field where
  | int
  | decimal
  | word
  | cluster
  | layout (layout : Layout)

/-- Fields in order, each behind a literal. -/
inductive Layout where
  | done
  | slot (literal : Text) (field : Field) (later : Layout)

end

/-- The number of slots. -/
def Layout.length : Layout → Nat
  | done => 0
  | slot _ _ later => later.length + 1

/-- What stands behind the leftmost occurrence of a literal. A literal that does not occur is an
error that carries the text. -/
def skipPast (literal text : Text) : Except Error Text :=
  match text.find? literal with
  | some offset => .ok (text.drop (offset + literal.length))
  | none => .error (.literalMissing literal text)

/-- A number from the head of a text, and what is left behind it. A number that is not there is
an error that carries the text. -/
def takeNumber {α : Type} (kind : Text) (value : α → Value) (reading : Text → Numeral.Reading α)
    (text : Text) : Except Error (Value × Text) :=
  if (reading text).found then .ok (value (reading text).value, text.drop (reading text).width)
  else .error (.unparsable kind text)

/-- The first cluster of a text, and what is left behind it. A blank one is left too. -/
def takeCluster (text : Text) : Value × Text :=
  if Text.holdsBlank (firstCluster text) then (.text [], text)
  else (.text (firstCluster text), text.drop (firstCluster text).length)

theorem skipPast_of_isLeftmost {noise literal behind : Text}
    (leftmost : Text.IsLeftmost (noise ++ (literal ++ behind)) literal noise.length) :
    skipPast literal (noise ++ (literal ++ behind)) = .ok behind := by
  simp only [skipPast, Text.find?_eq_some_iff.mpr leftmost]
  rw [← List.drop_drop, List.drop_left, List.drop_left]

mutual

/-- A value from the head of a text, and what is left behind it. An inner layout looks at the
text and leaves all of it. -/
def Field.take : Field → Text → Except Error (Value × Text)
  | .int, text => takeNumber "integer".toList .int Numeral.integerOf text
  | .decimal, text => takeNumber "float".toList .real Numeral.decimalReadingOf text
  | .word, text => .ok (.text (headWord text), text.drop (headWord text).length)
  | .cluster, text => .ok (takeCluster text)
  | .layout layout, text => do return (.tuple (← layout.read text), text)

/-- The values of a layout's fields, each of them taken behind the field's literal. -/
def Layout.read : Layout → Text → Except Error (List Value)
  | .done, _ => return []
  | .slot literal field later, text => do
      let taken ← field.take (← skipPast literal text)
      return taken.1 :: (← later.read taken.2)

end

/-- There is one value for each slot. -/
theorem Layout.length_of_read : ∀ {layout : Layout} {text : Text} {values : List Value},
    layout.read text = .ok values → values.length = layout.length
  | done, text, values, isRead => by
      rw [read] at isRead
      obtain rfl := Except.ok.inj isRead
      rfl
  | slot literal field later, text, values, isRead => by
      rw [read] at isRead
      obtain ⟨rest, -, isRead⟩ := ok_of_bind isRead
      obtain ⟨taken, -, isRead⟩ := ok_of_bind isRead
      obtain ⟨more, moreRead, isRead⟩ := ok_of_bind isRead
      obtain rfl := Except.ok.inj isRead
      rw [List.length_cons, length_of_read moreRead, length]

/-! ## Token parsers -/

/-- The step yields what was taken from a text, and leaves a cursor that holds what is left. -/
inductive Takes (step : Edit Value) (cursor : Cursor) : Except Error (Value × Text) → Prop
  | ok {value : Value} {left : Text} {after : Cursor} (ran : step.on cursor = (.ok value, after))
      (holds : after.Holds left) : Takes step cursor (.ok (value, left))
  | error {error : Error} {after : Cursor} (ran : step.on cursor = (.error error, after)) :
      Takes step cursor (.error error)

/-- A number that has to be there, for any scanner that reads the head of the window. -/
theorem required_takes {α : Type} {reader : Edit (Option α)} {cursor : Cursor}
    {reading : Text → Numeral.Reading α} (kind : Text) (value : α → Value)
    (inside : cursor.Inside) (fits : (reading cursor.content).width ≤ cursor.content.length)
    (ran : reader.on cursor =
      if (reading cursor.content).found then
        (.ok (some (reading cursor.content).value), cursor.part (reading cursor.content).width
          (cursor.content.length - (reading cursor.content).width))
      else (.ok none, cursor)) :
    Takes (do return value (← Token.required kind reader)) cursor
      (takeNumber kind value reading cursor.content) := by
  have required := on_required kind ran
  unfold takeNumber
  split
  next found =>
      rw [if_pos found] at required
      refine .ok ?_ (inside.holds_back fits)
      simp only [on_bind, required, on_pure]
  next missing =>
      rw [if_neg missing] at required
      have failed : (do return value (← Token.required kind reader) : Edit Value).on cursor =
          (.error (.unparsable kind cursor.content), cursor) := by
        simp only [on_bind, required]
      exact .error failed

section Tokens

variable {cursor : Cursor} {text : Text} (holds : cursor.Holds text)

include holds

theorem int_takes : Takes (do return .int (← Token.int)) cursor (Field.int.take text) := by
  obtain ⟨⟨inside, -⟩, rfl⟩ := holds
  rw [Field.take]
  exact required_takes _ _ inside (Numeral.integerOf_width_le _) (on_popInt? inside)

theorem decimal_takes :
    Takes (do return .real (← Token.decimal)) cursor (Field.decimal.take text) := by
  obtain ⟨⟨inside, -⟩, rfl⟩ := holds
  rw [Field.take]
  exact required_takes _ _ inside (Numeral.decimalReadingOf_width_le _) (on_popDecimal? inside)

theorem word_takes : Takes (do return .text (← Token.word)) cursor (Field.word.take text) := by
  obtain ⟨⟨inside, -⟩, rfl⟩ := holds
  rw [Field.take]
  refine .ok ?_ (inside.holds_back (headWord_length_le _))
  simp only [on_bind, on_word inside, on_pure]

theorem cluster_takes :
    Takes (do return .text (← Token.cluster)) cursor (Field.cluster.take text) := by
  obtain ⟨⟨inside, coherent⟩, rfl⟩ := holds
  have ran := on_token inside
  rw [Field.take, takeCluster]
  split
  next blank =>
      rw [if_pos blank] at ran
      obtain ⟨after, ran, holds⟩ := Mirrors.holds token_mirrors coherent ran inside.holds_bare
      refine .ok ?_ holds
      simp only [on_bind, ran, on_pure]
  next visible =>
      have fits := clusterOffset_le cursor.content 1
      rw [clusterOffset_one] at fits
      rw [if_neg visible] at ran
      obtain ⟨after, ran, holds⟩ :=
        Mirrors.holds token_mirrors coherent ran (inside.holds_back fits)
      refine .ok ?_ holds
      simp only [on_bind, ran, on_pure]

end Tokens

end TextCursor.Template
