import TextCursor.Error
import TextCursor.Datum

/-!
Contract: what can end a benchmark early.

Owns: unsuitable configured cases, unsuitable samples, and failures of the work itself, with
their wording.
-/

namespace TextCursor.Benchmark

inductive Failure where
  | work (error : Error)
  /-- A case text of a shape that has no length. -/
  | noLength (kind : String)
  /-- A case text of a shape that cannot be divided into clusters. -/
  | notText
  /-- A case text of a shape that cannot be cut. -/
  | notCut
  | noEntry (position : Nat)
  /-- An item of a case text, of a shape that is not sought among the digits. -/
  | notSought (kind : String)
  /-- A case text of a shape that is not the text of a number. -/
  | notNumeral (kind : String)
  /-- A case of a shape that holds nothing. -/
  | notIterable (kind : String)
  /-- A case that is a text and mentions the key. -/
  | textCase
  /-- A case that is a list and holds the key. -/
  | listCase
  | noItems (kind : String)
  | noSamples
  /-- A sample is infinite or not a number. -/
  | notFinite
  | oppositeInfinities
  | sumTooLarge
deriving DecidableEq, Repr

def kindOf : Datum → String
  | .null => "NoneType"
  | .bool _ => "bool"
  | .int _ => "int"
  | .real _ => "float"
  | .text _ => "str"
  | .list _ => "list"
  | .table _ => "dict"

def Failure.message : Failure → String
  | work error => error.message
  | noLength kind => s!"object of type '{kind}' has no len()"
  | notText => "expected string or buffer"
  | notCut => "unhashable type: 'slice'"
  | noEntry position => toString position
  | notSought kind => s!"'in <string>' requires string as left operand, not {kind}"
  | notNumeral kind => s!"float() argument must be a string or a real number, not '{kind}'"
  | notIterable kind => s!"argument of type '{kind}' is not iterable"
  | textCase => "string indices must be integers, not 'str'"
  | listCase => "list indices must be integers or slices, not str"
  | noItems kind => s!"'{kind}' object has no attribute 'items'"
  | noSamples => "fmean requires at least one data point"
  | notFinite => "'float' object has no attribute 'numerator'"
  | oppositeInfinities => "-inf + inf in fsum"
  | sumTooLarge => "intermediate overflow in fsum"

end TextCursor.Benchmark
