import TextCursor.Cursor.Number
import TextCursor.Cursor.Pop
import TextCursor.Cursor.Trim

/-!
Contract: loops that use up a window piece by piece.

Owns: collecting the numbers of a text, and splitting a text at a delimiter. Both record what
each round yields and the cursor after it.

A round of either loop shortens the window, unless the delimiter is empty, so the size of the
window bounds their length.
-/

namespace TextCursor.Benchmark

/-- What a round yielded, and the cursor after it. -/
structure Round (α : Type) where
  yielded : α
  cursor : Cursor
deriving Repr

/-- Runs rounds until the window is empty, at most `limit` of them. -/
def whileNonEmpty {α : Type} (round : Edit (Round α)) : (limit : Nat) → Edit (List (Round α))
  | 0 => return []
  | limit + 1 => do
      if (← get).size = 0 then return []
      else
        let done ← round
        return done :: (← whileNonEmpty round limit)

/-- Tries for a number; without one a cluster is dropped. Blanks that come next are skipped
either way, after the record is made. -/
def numberRound {α : Type} (pop : Edit (Option α)) : Edit (Round (Option α)) := do
  let number ← pop
  let cursor ← get
  if number.isNone then
    let _ ← Cursor.popFront 1
  Cursor.skipBlanks
  return ⟨number, cursor⟩

def fieldRound (delimiter : Text) : Edit (Round Cursor) := do
  let field ← Cursor.popField delimiter
  return ⟨field, ← get⟩

def onText {α : Type} (text : Text) (edit : Edit α) : Except Error α := do
  let cursor ← Cursor.ofText text 0 none
  (edit.on cursor).1

/-- The attempts at numbers in a text, from its beginning to its end. -/
def collectNumbers {α : Type} (pop : Edit (Option α)) (text : Text) :
    Except Error (List (Round (Option α))) :=
  onText text (whileNonEmpty (numberRound pop) text.length)

def splitFields (delimiter text : Text) : Except Error (List (Round Cursor)) :=
  onText text (whileNonEmpty (fieldRound delimiter) text.length)

end TextCursor.Benchmark
