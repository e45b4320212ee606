import TextCursor.Error

/-!
Contract: a read at a position that is expected to be inside the text.

Owns: the failure of such a read. Positions count as in `Text.at?`.
-/

namespace TextCursor.Text

def read (text : Text) (position : Int) : Except Error Char :=
  match text.at? position with
  | some c => .ok c
  | none => .error .noCodePoint

end TextCursor.Text
