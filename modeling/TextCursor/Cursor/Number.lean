import TextCursor.Cursor.Edit
import TextCursor.Numeral.Scan

/-!
Contract: numbers at the head of a window.

Owns: reading a number without moving, where none counts as zero, and removing one, where none
is a failure that leaves the cursor as it is. The source is scanned in place, up to the window's
end.
-/

namespace TextCursor.Cursor

/-- The integer at the head of the window, zero if there is none. -/
def headInt (cursor : Cursor) : Except Error Int := do
  let reading ← Numeral.readInt cursor.source cursor.start cursor.stop
  return if reading.found then reading.value else 0

/-- The decimal number at the head of the window, positive zero if there is none. -/
def headDecimal (cursor : Cursor) : Except Error Binary64 := do
  let reading ← Numeral.readDecimal cursor.source cursor.start cursor.stop
  return if reading.found then reading.value else .zero false

/-- Moves past what a scan took, if it found a number. -/
def popReading {α : Type} (reading : Numeral.Reading α) : Edit (Option α) := do
  if reading.found then
    let cursor ← get
    moveTo (cursor.start + reading.consumed) (cursor.size - reading.consumed)
    return some reading.value
  else return none

def popInt? : Edit (Option Int) := do
  let cursor ← get
  popReading (← .ofExcept (Numeral.readInt cursor.source cursor.start cursor.stop))

def popDecimal? : Edit (Option Binary64) := do
  let cursor ← get
  popReading (← .ofExcept (Numeral.readDecimal cursor.source cursor.start cursor.stop))

end TextCursor.Cursor
