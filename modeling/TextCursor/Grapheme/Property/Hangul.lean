import TextCursor.Text.RangeTable

/-!
Contract: Hangul syllable types.

Owns: the leading, vowel and trailing jamo; precomposed syllables, of which every
twenty-eighth has no trailing consonant.
-/

namespace TextCursor.Grapheme.Property

/-- Grapheme_Cluster_Break=L. -/
def leadingJamo : RangeTable :=
  [(0x1100, 0x115F), (0xA960, 0xA97C)]

/-- Grapheme_Cluster_Break=V. -/
def vowelJamo : RangeTable :=
  [(0x1160, 0x11A7), (0xD7B0, 0xD7C6), (0x16D63, 0x16D63), (0x16D67, 0x16D6A)]

/-- Grapheme_Cluster_Break=T. -/
def trailingJamo : RangeTable :=
  [(0x11A8, 0x11FF), (0xD7CB, 0xD7FB)]

/-- First and last precomposed syllable. -/
def firstSyllable : Nat := 0xAC00

def lastSyllable : Nat := 0xD7A3

/-- Syllables that share a leading consonant and a vowel, the one without a trailing
consonant first. -/
def trailingCount : Nat := 28

end TextCursor.Grapheme.Property
