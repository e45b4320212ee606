import TextCursor.Text.Basic
import TextCursor.Text.RangeTable

/-!
Contract: the two code-point classes that a cursor's reads depend on.

Owns: white space together with the zero width no-break space, and the ten ASCII digits.

A unit is a code point or a whole cluster. It is blank if any of its code points is, so a
space under a combining mark is blank. It is a digit only if it is a single code point.
-/

namespace TextCursor.Text

/-- White_Space, without the four information separators, and U+FEFF. -/
def blank : RangeTable :=
  [(0x9, 0xD), (0x20, 0x20), (0x85, 0x85), (0xA0, 0xA0), (0x1680, 0x1680), (0x2000, 0x200A),
   (0x2028, 0x2029), (0x202F, 0x202F), (0x205F, 0x205F), (0x3000, 0x3000), (0xFEFF, 0xFEFF)]

def isBlank (c : Char) : Bool := blank.contains c.toNat

def holdsBlank (unit : Text) : Bool := unit.any isBlank

/-- The ten digits, in the order of their values. -/
def digits : Text := "0123456789".toList

def isDigit (c : Char) : Bool := digits.contains c

def digitValue (c : Char) : Nat := c.toNat - '0'.toNat

/-- Whether a unit is a digit and nothing else. -/
def isDigitUnit : Text → Bool
  | [c] => isDigit c
  | _ => false

end TextCursor.Text
