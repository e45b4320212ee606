import TextCursor.Benchmark.Failure
import TextCursor.Numeral.Decimal

/-!
Contract: operations on configured values that are not texts.

Owns: what an operation needs of its text, and how far it gets with a value of another shape.

A list has a size and can be cut, and its items can be read in place of code points; but only
an empty list can be divided into clusters. A table has a size, and cannot be cut or read by
position. Values of all other shapes have no size, which every operation needs first.

Does not own: the operations on texts.
-/

namespace TextCursor.Benchmark

/-- What an operation needs of its text. -/
inductive Need where
  | size
  | clusters
  /-- The clusters, unless the text is empty. -/
  | clustersIfAny
  /-- Integers, and the clusters between them, until the text is used up. -/
  | integers
  /-- Decimals, and the clusters between them, until the text is used up. -/
  | decimals
deriving DecidableEq, Repr

namespace Misfit

def isFilled : Datum → Bool
  | .null => false
  | .bool value => value
  | .int value => value != 0
  | .real value => value.ordinal != 0
  | .text value => !value.isEmpty
  | .list items => !items.isEmpty
  | .table entries => !entries.isEmpty

/-- Whether an item is a digit. A filled item needs a length, and one of length one has to be a
text. -/
def isDigit (item : Datum) : Except Failure Bool :=
  if isFilled item then
    match item with
    | .text unit => .ok (Text.isDigitUnit unit)
    | .list [_] | .table [_] => .error (.notSought (kindOf item))
    | .list _ | .table _ => .ok false
    | _ => .error (.noLength (kindOf item))
  else .ok false

/-- The number of digits at the head of a list, and what follows them. -/
def digits : List Datum → Except Failure (Nat × List Datum)
  | [] => .ok (0, [])
  | item :: later => do
      if ← isDigit item then
        let (count, rest) ← digits later
        return (count + 1, rest)
      else return (0, item :: later)

def skipSign : List Datum → List Datum
  | .text ['-'] :: later => later
  | .text ['+'] :: later => later
  | items => items

/-- The number of digits behind a point, if a point comes first. -/
def fractionDigits : List Datum → Except Failure Nat
  | .text [mark] :: later =>
      if mark = Decimal.point then return (← digits later).1 else return 0
  | _ => return 0

/-- Uses a list up as integers. After an integer, as well as in place of one, clusters are asked
for, so an integer has to take the whole list. -/
def integers : List Datum → Except Failure Unit
  | [] => .ok ()
  | items => do
      let (count, rest) ← digits (skipSign items)
      if count = 0 || !rest.isEmpty then throw .notText

/-- Uses a list up as decimals. The items of a decimal are not the text of a number. -/
def decimals : List Datum → Except Failure Unit
  | [] => .ok ()
  | items => do
      let (whole, rest) ← digits (skipSign items)
      if whole + (← fractionDigits rest) = 0 then throw .notText
      else throw (.notNumeral (kindOf (.list items)))

def onList (items : List Datum) : Need → Except Failure Unit
  | .size => .ok ()
  | .clusters | .clustersIfAny => if items.isEmpty then .ok () else .error .notText
  | .integers => integers items
  | .decimals => decimals items

def onTable (entries : List (Text × Datum)) : Need → Except Failure Unit
  | .size => .ok ()
  | .clusters => .error .notCut
  | .clustersIfAny => if entries.isEmpty then .ok () else .error .notCut
  | .integers | .decimals => if entries.isEmpty then .ok () else .error (.noEntry 0)

end Misfit

end TextCursor.Benchmark
