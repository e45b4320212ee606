import TextCursor.Numeral.Decimal
import TextCursor.Text.Read

/-!
Contract: numbers at a given place of a text, read without cutting the text.

Owns: the scanners for a sign, a run of digits, an integer and a decimal numeral. Each starts
at a position, never looks at or past `stop`, and reports how far it came.

Positions are not checked against the text beforehand. A read outside it fails, and a negative
position counts from the end, so a scan may run past the text's end into its beginning; the
numeral that is then cut out can come out empty.
-/

namespace TextCursor.Numeral

/-- A sign, and where the scan goes on. -/
structure Sign where
  negative : Bool
  position : Int
deriving DecidableEq, Repr

/-- A run of digits: its value, where it ends, and how many there were. -/
structure DigitRun where
  value : Nat
  position : Int
  count : Nat
deriving DecidableEq, Repr

/-- A scanned number, how many code points it took, and whether it had any digit. -/
structure Reading (α : Type) where
  value : α
  consumed : Int
  found : Bool
deriving DecidableEq, Repr

/-- No sign counts as a plus. -/
def readSign (text : Text) (start stop : Int) : Except Error Sign :=
  if start < stop then do
    let head ← text.read start
    if head = '-' then return ⟨true, start + 1⟩
    else if head = '+' then return ⟨false, start + 1⟩
    else return ⟨false, start⟩
  else return ⟨false, start⟩

/-- Continues a run of digits for at most `room` more code points. -/
def digitsFrom (text : Text) : (room : Nat) → DigitRun → Except Error DigitRun
  | 0, run => return run
  | room + 1, run => do
      let c ← text.read run.position
      if Text.isDigit c then
        digitsFrom text room
          ⟨run.value * 10 + Text.digitValue c, run.position + 1, run.count + 1⟩
      else return run

def readDigits (text : Text) (start stop : Int) : Except Error DigitRun :=
  digitsFrom text (stop - start).toNat ⟨0, start, 0⟩

/-- An optional sign and digits. Without digits the value is zero. -/
def readInt (text : Text) (start stop : Int) : Except Error (Reading Int) := do
  let sign ← readSign text start stop
  let run ← readDigits text sign.position stop
  return ⟨if sign.negative then -run.value else run.value, run.position - start, 0 < run.count⟩

/-- The digits behind a point, if a point comes next. -/
def readFraction (text : Text) (start stop : Int) : Except Error DigitRun :=
  if start < stop then do
    let mark ← text.read start
    if mark = Decimal.point then readDigits text (start + 1) stop else return ⟨0, start, 0⟩
  else return ⟨0, start, 0⟩

def decimalOf (word : Text) : Except Error Binary64 :=
  match Decimal.ofText? word with
  | some decimal => .ok decimal.toBinary64
  | none => .error (.unreadableNumeral word)

/-- An optional sign, digits, and optionally a point and digits. Without digits the value is a
zero of the scanned sign; otherwise it is read from the numeral as a whole. -/
def readDecimal (text : Text) (start stop : Int) : Except Error (Reading Binary64) := do
  let sign ← readSign text start stop
  let whole ← readDigits text sign.position stop
  let fraction ← readFraction text whole.position stop
  let consumed := fraction.position - start
  if 0 < whole.count + fraction.count then
    return ⟨← decimalOf (text.slice start fraction.position), consumed, true⟩
  else return ⟨.zero sign.negative, consumed, false⟩

end TextCursor.Numeral
