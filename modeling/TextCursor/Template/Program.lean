import TextCursor.Cursor.Edit
import TextCursor.Numeral.Binary64

/-!
Contract: what a parser does when it fills a slot of a template.

Owns: the values that parsers yield, and programs, which work on the scratch cursor of the
reader that runs them and may apply any reader to any input.

A program sees the outcome of each of its steps, also a failed one, so it can let an error pass
or go on after it.
-/

namespace TextCursor.Template

inductive Value where
  | bool (value : Bool)
  | int (value : Int)
  | real (value : Binary64)
  | text (value : Text)
  | texts (values : List Text)
  /-- A cursor of its own. -/
  | cursor (cursor : Cursor)
  /-- The scratch cursor of a reader, in whatever state it is. -/
  | scratch (reader : Nat)
  | tuple (values : List Value)

/-- What a template is applied to: a text, or the window of a cursor. A cursor is handed over by
value. The reader copies its source and its window into a scratch cursor and works on that one, so
whoever owns the cursor keeps it as it is. -/
inductive Input where
  | text (text : Text)
  | cursor (cursor : Cursor)
deriving DecidableEq, Repr

inductive Program where
  | finish (outcome : Except Error Value)
  | edit (step : Edit Value) (next : Except Error Value → Program)
  /-- Applies a reader to an input made from the scratch cursor. -/
  | apply (reader : Nat) (input : Cursor → Input) (next : Except Error (List Value) → Program)

namespace Program

/-- Works on the scratch cursor and yields the answer. -/
def ofEdit {α : Type} (value : α → Value) (step : Edit α) : Program :=
  .edit (do return value (← step)) .finish

/-- Applies a reader to the window of the scratch cursor and yields its values. The scratch
cursor stays as it is. -/
def ofReader (reader : Nat) : Program :=
  .apply reader .cursor fun outcome => .finish (outcome.map .tuple)

end Program

/-- A parser: the name it is shown by, and its program. The program may depend on the reader it
works for and on the number of times the slot was filled before. -/
structure Parser where
  name : Text
  program : (reader earlier : Nat) → Program

/-- A literal to search for, and the parser for what follows it. -/
structure Slot where
  literal : Text
  parser : Parser

end TextCursor.Template

namespace TextCursor

/-- Slots to fill in order, and a last literal, which is kept but never searched for. -/
structure Template where
  slots : List Template.Slot
  tail : Text

namespace Template

/-- The literals in order; there is one more than there are parsers. -/
def literals (template : Template) : List Text :=
  template.slots.map Slot.literal ++ [template.tail]

def written (template : Template) : Text :=
  let slots := template.slots.flatMap fun slot =>
    slot.literal.quoted ++ " <".toList ++ slot.parser.name ++ "> ".toList
  "<TokenExtractor: ".toList ++ slots ++ template.tail.quoted ++ ['>']

end Template

end TextCursor
