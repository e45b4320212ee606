import TextCursor.Datum
import TextCursor.Error

/-!
Contract: the outcome of an operation that may fail without an error.

Owns: success and data, which only a caller who builds an outcome by hand can make disagree.
-/

namespace TextCursor

structure Outcome (α : Type) where
  success : Bool
  data : Option α
deriving DecidableEq, Repr

namespace Outcome

def found {α : Type} (data : α) : Outcome α := ⟨true, some data⟩

def missing {α : Type} : Outcome α := ⟨false, none⟩

def ofOption {α : Type} : Option α → Outcome α
  | some data => found data
  | none => missing

def insist {α : Type} (outcome : Outcome α) : Except Error (Option α) :=
  if outcome.success then .ok outcome.data else .error .emptyOutcome

/-- No data counts as the null datum. -/
def datum (outcome : Outcome Datum) : Datum := outcome.data.getD .null

/-- Two outcomes agree if their successes and their data do. -/
def same (left right : Outcome Datum) : Bool :=
  left.success == right.success && left.datum.same right.datum

def written (outcome : Outcome Datum) : Text :=
  "Result(success=".toList ++ (Datum.bool outcome.success).written ++ ", data=".toList ++
    outcome.datum.written ++ [')']

end Outcome

end TextCursor
