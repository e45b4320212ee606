import TextCursor.Numeral.Arithmetic
import TextCursor.Numeral.Shortest
import TextCursor.Text.Quoted

/-!
Contract: plain data that a caller hands in, of any shape.

Owns: the shapes, when two data are the same, the written form, and the form in messages.

A table keeps its keys in order when it is written and ignores the order when it is compared.
Numbers are compared by value, whatever their kind, and the two booleans count as zero and one.
-/

namespace TextCursor

inductive Datum where
  | null
  | bool (value : Bool)
  | int (value : Int)
  | real (value : Binary64)
  | text (value : Text)
  | list (items : List Datum)
  | table (entries : List (Text × Datum))
deriving Repr

namespace Datum

def lookup (key : Text) : List (Text × Datum) → Option Datum
  | [] => none
  | (name, value) :: later => if name = key then some value else lookup key later

/-- Whether a datum counts as an integer in a comparison. -/
def countsAs (number : Int) : Datum → Bool
  | bool value => (if value then 1 else 0) == number
  | int value => value == number
  | real value => value.isFinite && value.units == number * Binary64.unitsPerOne
  | _ => false

mutual

def same : Datum → Datum → Bool
  | null, other => match other with
    | null => true
    | _ => false
  | bool value, other => other.countsAs (if value then 1 else 0)
  | int value, other => other.countsAs value
  | real value, other => match other with
    | bool otherValue => (real value).countsAs (if otherValue then 1 else 0)
    | int otherValue => (real value).countsAs otherValue
    | real otherValue => value.equals otherValue
    | _ => false
  | text value, other => match other with
    | text otherValue => value == otherValue
    | _ => false
  | list items, other => match other with
    | list otherItems => sameItems items otherItems
    | _ => false
  | table entries, other => match other with
    | table otherEntries =>
        entries.length == otherEntries.length && sameEntries entries otherEntries
    | _ => false

def sameItems : List Datum → List Datum → Bool
  | [], others => others.isEmpty
  | item :: items, others => match others with
    | [] => false
    | other :: later => same item other && sameItems items later

/-- Every entry is found under its key on the other side. -/
def sameEntries : List (Text × Datum) → List (Text × Datum) → Bool
  | [], _ => true
  | (key, value) :: entries, others =>
      (match lookup key others with
        | some other => same value other
        | none => false) && sameEntries entries others

end

mutual

def written : Datum → Text
  | null => "None".toList
  | bool value => (if value then "True" else "False").toList
  | int value => Text.ofInt value
  | real value => value.written
  | text value => value.quoted
  | list items => '[' :: writtenItems items ++ [']']
  | table entries => '\x7b' :: writtenEntries entries ++ ['\x7d']

def writtenItems : List Datum → Text
  | [] => []
  | item :: items => written item ++ writtenLaterItems items

/-- Items after the first, each with the comma before it. -/
def writtenLaterItems : List Datum → Text
  | [] => []
  | item :: items => ',' :: ' ' :: written item ++ writtenLaterItems items

def writtenEntries : List (Text × Datum) → Text
  | [] => []
  | (key, value) :: entries =>
      key.quoted ++ ':' :: ' ' :: written value ++ writtenLaterEntries entries

/-- Entries after the first, each with the comma before it. -/
def writtenLaterEntries : List (Text × Datum) → Text
  | [] => []
  | (key, value) :: entries =>
      ',' :: ' ' :: key.quoted ++ ':' :: ' ' :: written value ++ writtenLaterEntries entries

end

/-- The form within a message: a text as it is, anything else as it is written. -/
def shown : Datum → Text
  | text value => value
  | datum => datum.written

/-- Data as a message of their own: a single one as it is shown, several in a row of their
written forms. -/
def remark : List Datum → Text
  | [] => []
  | [datum] => datum.shown
  | data => '(' :: writtenItems data ++ [')']

end Datum

end TextCursor
