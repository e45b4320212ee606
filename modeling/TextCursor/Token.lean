import TextCursor.Cursor.Look
import TextCursor.Cursor.Number
import TextCursor.Cursor.Pop
import TextCursor.Cursor.Predicate
import TextCursor.Text.Blank

/-!
Contract: the token readers that fill a template's slots by default.

Owns: readers for an integer, a decimal number, a word, and an optional cluster. A number that
is not there is an error that carries the text as it stands.
-/

namespace TextCursor.Token

/-- A value that has to be there. -/
def required {α : Type} (kind : Text) (reader : Edit (Option α)) : Edit α := do
  match ← reader with
  | some value => return value
  | none => throw (.unparsable kind (← get).content)

def int : Edit Int := required "integer".toList Cursor.popInt?

def decimal : Edit Binary64 := required "float".toList Cursor.popDecimal?

/-- Accepts every code point that is not blank. -/
def nonBlank : Predicate := fun _ c => .ok !Text.isBlank c

/-- The code points up to the first blank one, possibly none. -/
def word : Edit Text := do
  return (← Cursor.popFrontWhile nonBlank).content

/-- One cluster, or nothing if the first one is blank. -/
def cluster : Edit Text := do
  if Text.holdsBlank (← Cursor.clusterAt 0) then return []
  else return (← Cursor.popFront 1).content

end TextCursor.Token
