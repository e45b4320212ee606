import TextCursor.Text.Quoted

/-!
Contract: every way in which an operation of the library can fail.

Owns: the causes with what is known about each, their wording, and the families they belong to.

Some causes report a broken internal rule: a window outside its source, a cluster or a code
point that is not there, a numeral that cannot be read. They are raised where the rule is
relied upon.
-/

namespace TextCursor

inductive Error where
  /-- A window that does not lie within a source of this length. -/
  | outOfBounds (start size : Int) (length : Nat)
  /-- A cluster that a list of this many clusters does not have. -/
  | noCluster (index count : Int)
  | noCodePoint
  | unreadableNumeral (word : Text)
  /-- The caller's predicate refused to answer. -/
  | predicateFailed
  | noData (message : Text)
  | literalMissing (literal remaining : Text)
  /-- No value of this kind stands at the head of the text. -/
  | unparsable (kind remaining : Text)
  /-- A template was applied while an application of it was under way. -/
  | alreadyRunning
  /-- Something that cannot fill a slot; the text is its written form. -/
  | notAParser (shown : Text)
  | extraction (message : Text)
  | general (message : Text)
deriving DecidableEq, Repr

namespace Error

/-- A failed outcome was asked for its data. -/
def emptyOutcome : Error := noData "Result has no data".toList

private def shown (text : Text) : String := String.ofList text

def message : Error → String
  | outOfBounds start size length =>
      s!"Window ({start}, {size}) is out of bounds for a source of length {length}"
  | noCluster index count => s!"Invalid segment index {index} (view has {count} segments)"
  | noCodePoint => "string index out of range"
  | unreadableNumeral word => s!"could not convert string to float: {shown word.quoted}"
  | predicateFailed => "predicate failed"
  | noData text => shown text
  | literalMissing literal remaining =>
      s!"Literal {shown literal.quoted} not found in {shown remaining.quoted}"
  | unparsable kind remaining => s!"Failed to parse {shown kind} from {shown remaining.quoted}"
  | alreadyRunning => "Token extractor is already running; extractors are not reentrant"
  | notAParser text => s!"{shown text} is not a token parser"
  | extraction text => shown text
  | general text => shown text

/-- Families of causes that a caller can handle together. -/
inductive Family where
  | library
  | extraction
  | index
  | lookup
  | runtime
  | value
deriving DecidableEq, Repr

/-- The families of a cause, in the order of `Family`. -/
def families : Error → List Family
  | outOfBounds .. | predicateFailed | notAParser _ => []
  | noCodePoint => [.index, .lookup]
  | unreadableNumeral _ => [.value]
  | noCluster .. => [.library, .index, .lookup]
  | noData _ => [.library, .value]
  | literalMissing .. | extraction _ => [.library, .extraction]
  | unparsable .. => [.library, .extraction, .value]
  | alreadyRunning => [.library, .extraction, .runtime]
  | general _ => [.library]

end Error

end TextCursor
