import TextCursor.Grapheme.BreakClass
import TextCursor.Text.Basic

/-!
Contract: the extended grapheme cluster rules, read off the whole text before a position.

Owns: the boundary predicate that the clusters are defined by. The rules look back as far as
they need to; nothing is carried from one position to the next.

Does not own: the division of a text, which an automaton computes in one pass.
-/

namespace TextCursor.Grapheme

namespace Rules

/-- An odd number of regional indicators stands before the position, so the last has no
partner. The classes are given nearest first, here and below. -/
def oddRegionals (before : List BreakClass) : Bool :=
  (before.takeWhile (· = .regional)).length % 2 = 1

/-- A joiner stands before the position, and before it extending code points that reach back
to a pictograph. -/
def joinedPictograph : List BreakClass → Bool
  | .joiner :: before => (before.dropWhile BreakClass.isExtend).head? = some .pictographic
  | _ => false

/-- Fillers reach back to a consonant, and one of them is a linker. -/
def linkedConsonant (before : List BreakClass) : Bool :=
  (before.takeWhile BreakClass.isConjunctFiller).contains .linker &&
    (before.dropWhile BreakClass.isConjunctFiller).head? = some .consonant

/-- Whether there is no boundary between the classes before a position and the one after it. -/
def joined (before : List BreakClass) (next : BreakClass) : Bool :=
  match before with
  | [] => false
  | last :: _ =>
      if last = .carriageReturn ∧ next = .lineFeed then true
      else if last.isControl || next.isControl then false
      else last.sameSyllable next || next.clings || last = .prepended ||
        (next = .regional && oddRegionals before) ||
        (next = .pictographic && joinedPictograph before) ||
        (next = .consonant && linkedConsonant before)

end Rules

/-- The offset `position` of a text is a cluster boundary: it is an end of the text, or the
rules do not join the code points on its two sides. -/
def IsBoundary (text : Text) (position : Nat) : Prop :=
  position = 0 ∨ position = text.length ∨
    ∃ next, text[position]? = some next ∧
      Rules.joined ((text.take position).reverse.map BreakClass.ofChar)
        (BreakClass.ofChar next) = false

end TextCursor.Grapheme
