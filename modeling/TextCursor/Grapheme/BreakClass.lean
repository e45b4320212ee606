import TextCursor.Grapheme.Property.Conjunct
import TextCursor.Grapheme.Property.Control
import TextCursor.Grapheme.Property.Extend
import TextCursor.Grapheme.Property.Hangul
import TextCursor.Grapheme.Property.Pictographic
import TextCursor.Grapheme.Property.SpacingMark

/-!
Contract: the one class of a code point that the cluster rules look at.

Owns: a partition of the code points. It joins three properties, Grapheme_Cluster_Break,
Extended_Pictographic and Indic_Conjunct_Break, into one class: pictographs and consonants are
otherwise unclassified, and linkers and the zero width non-joiner are set apart from the other
extending code points because the conjunct rule treats them differently.
-/

namespace TextCursor.Grapheme

inductive BreakClass where
  | carriageReturn
  | lineFeed
  | control
  | extend
  | nonJoiner
  | linker
  | joiner
  | regional
  | prepended
  | spacingMark
  | leadingJamo
  | vowelJamo
  | trailingJamo
  | openSyllable
  | closedSyllable
  | pictographic
  | consonant
  | other
deriving DecidableEq, Repr

namespace BreakClass

/-- The class of a precomposed Hangul syllable. -/
def ofSyllable (code : Nat) : BreakClass :=
  if (code - Property.firstSyllable) % Property.trailingCount = 0 then openSyllable
  else closedSyllable

def ofCode (code : Nat) : BreakClass :=
  if code = 0xD then carriageReturn
  else if code = 0xA then lineFeed
  else if Property.control.contains code then control
  else if code = 0x200C then nonJoiner
  else if code = 0x200D then joiner
  else if Property.linker.contains code then linker
  else if Property.extend.contains code then extend
  else if 0x1F1E6 ≤ code ∧ code ≤ 0x1F1FF then regional
  else if Property.prepended.contains code then prepended
  else if Property.spacingMark.contains code then spacingMark
  else if Property.leadingJamo.contains code then leadingJamo
  else if Property.vowelJamo.contains code then vowelJamo
  else if Property.trailingJamo.contains code then trailingJamo
  else if Property.firstSyllable ≤ code ∧ code ≤ Property.lastSyllable then ofSyllable code
  else if Property.pictographic.contains code then pictographic
  else if Property.consonant.contains code then consonant
  else other

def ofChar (c : Char) : BreakClass := ofCode c.toNat

/-- Always a break before and after, but for a carriage return and its line feed. -/
def isControl : BreakClass → Bool
  | carriageReturn | lineFeed | control => true
  | _ => false

/-- Grapheme_Cluster_Break=Extend. -/
def isExtend : BreakClass → Bool
  | extend | nonJoiner | linker => true
  | _ => false

/-- Never begins a cluster that follows anything but a control. -/
def clings : BreakClass → Bool
  | extend | nonJoiner | linker | joiner | spacingMark => true
  | _ => false

/-- Indic_Conjunct_Break=Extend or Linker. -/
def isConjunctFiller : BreakClass → Bool
  | extend | linker | joiner => true
  | _ => false

/-- Two parts of one Hangul syllable. -/
def sameSyllable : BreakClass → BreakClass → Bool
  | leadingJamo, leadingJamo | leadingJamo, vowelJamo => true
  | leadingJamo, openSyllable | leadingJamo, closedSyllable => true
  | openSyllable, vowelJamo | openSyllable, trailingJamo => true
  | vowelJamo, vowelJamo | vowelJamo, trailingJamo => true
  | closedSyllable, trailingJamo | trailingJamo, trailingJamo => true
  | _, _ => false

end BreakClass

end TextCursor.Grapheme
