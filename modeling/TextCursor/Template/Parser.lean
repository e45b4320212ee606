import TextCursor.Cursor.Look
import TextCursor.Cursor.Trim
import TextCursor.Template.Program
import TextCursor.Token

/-!
Contract: the parsers that come with the library.

Owns: the four token parsers, parsers that report on the rest of the input without consuming
any of it, and parsers that exercise a reader: one that removes a fixed number of clusters, one
that hands out the scratch cursor, one that applies its own reader.
-/

namespace TextCursor.Template.Parser

/-- A parser that always does the same. -/
def always (name : String) (program : Program) : Parser := ⟨name.toList, fun _ _ => program⟩

def ofEdit {α : Type} (name : String) (value : α → Value) (step : Edit α) : Parser :=
  always name (.ofEdit value step)

def int : Parser := ofEdit "parse_int" .int Token.int

def decimal : Parser := ofEdit "parse_float" .real Token.decimal

def word : Parser := ofEdit "parse_word" .text Token.word

def cluster : Parser := ofEdit "parse_optional" .text Token.cluster

def isNonEmpty : Parser := ofEdit "bool" .bool do return (← get).size ≠ 0

def clusterTexts (name : String) : Parser := ofEdit name .texts Cursor.clusterTexts

def size (name : String) : Parser := ofEdit name .int do return (← get).size

def written : Parser := ofEdit "repr" .text do return (← get).written

def copy : Parser := ofEdit "StringView" .cursor do .ofExcept (← get).copy

def rest : Parser := ofEdit "rest" .text do return (← get).content

def two : Parser := ofEdit "take2" .cursor (Cursor.popFront 2)

/-- An integer that blanks may stand before. -/
def trimmedInt : Parser :=
  ofEdit "trimmed_int" .int do
    Cursor.skipBlanks
    Token.int

/-- The text before the next comma, which is removed too. -/
def untilComma : Parser :=
  ofEdit "until_comma" .text do return (← Cursor.popField [',']).content

def scratch : Parser := ⟨"itself".toList, fun reader _ => .finish (.ok (.scratch reader))⟩

/-- Applies its own reader the first times it is used, and later parses an integer. -/
def nested (times : Int) : Parser where
  name := "nested".toList
  program reader earlier :=
    if earlier < times then .ofReader reader else .ofEdit .int Token.int

/-- Another reader as a parser. It works on a copy and consumes nothing. -/
def ofReader (template : Template) (reader : Nat) : Parser :=
  ⟨template.written, fun _ _ => .ofReader reader⟩

def catalogue : List Parser :=
  [int, decimal, word, cluster, isNonEmpty, clusterTexts "list", clusterTexts "tuple", size "len",
    written, copy, two, rest, scratch, trimmedInt, untilComma, size "size_left"]

end TextCursor.Template.Parser
