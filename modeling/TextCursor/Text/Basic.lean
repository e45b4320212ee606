/-!
Contract: text as a list of code points, read by integer position.

Owns: single reads and slices, where a negative position counts from the end; occurrence
search at code-point offsets.

Does not own: grapheme clusters, case, quoting.
-/

namespace TextCursor

/-- A text counts in code points, those that are Unicode scalar values. A lone surrogate is none
of these, so a sequence with one in it is no text here. -/
abbrev Text := List Char

namespace Text

/-- The code point at a position; a negative position counts from the end. -/
def at? (text : Text) (position : Int) : Option Char :=
  if 0 ≤ position then text[position.toNat]?
  else
    let fromEnd := text.length + position
    if 0 ≤ fromEnd then text[fromEnd.toNat]? else none

/-- The offset a slice bound names: a negative bound counts from the end, and one before the
text is its beginning. -/
def bound (text : Text) (position : Int) : Nat :=
  if 0 ≤ position then position.toNat else (text.length + position).toNat

/-- The code points from `start` to `stop`, cut off at the text's ends, and none if the bounds
cross. -/
def slice (text : Text) (start stop : Int) : Text :=
  let first := bound text start
  (text.drop first).take (bound text stop - first)

/-- The leftmost offset at which `needle` occurs. -/
def find? (text needle : Text) : Option Nat :=
  match text with
  | [] => if needle.isEmpty then some 0 else none
  | head :: tail =>
      if needle.isPrefixOf (head :: tail) then some 0
      else (find? tail needle).map (· + 1)

/-- The leftmost occurrence of `needle` that ends by `stop`. It is looked for in `rest`, which
begins at `position` of the text that positions count in. -/
def findBefore? (rest needle : Text) (stop position : Int) : Option Int :=
  if stop < position + needle.length then none
  else if needle.isPrefixOf rest then some position
  else match rest with
    | [] => none
    | _ :: tail => findBefore? tail needle stop (position + 1)

/-- An integer in base ten, with a minus sign if it is negative. -/
def ofInt (value : Int) : Text :=
  if value < 0 then '-' :: Nat.toDigits 10 value.natAbs else Nat.toDigits 10 value.toNat

/-- Texts one after another, with a separator between neighbours. -/
def joined (separator : Text) (pieces : List Text) : Text :=
  (pieces.intersperse separator).flatten

end Text

end TextCursor
