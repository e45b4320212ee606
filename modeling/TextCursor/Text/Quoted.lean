import TextCursor.Text.Basic
import TextCursor.Text.Printable

/-!
Contract: the quoted form of a text, in which every code point is visible.

Owns: the choice of quote, and the escape of each code point.

A text is put between single quotes unless it holds one and no double quote. Only a single
quote can then need an escape as a quote.
-/

namespace TextCursor.Text

/-- `width` hexadecimal digits in lower case, with leading zeros. -/
def hexadecimal : (width : Nat) → Nat → Text
  | 0, _ => []
  | width + 1, code => hexadecimal width (code / 16) ++ [Nat.digitChar (code % 16)]

/-- The numeric escape with the fewest digits that can hold the code point. -/
def escapeCode (code : Nat) : Text :=
  if code < 0x100 then '\\' :: 'x' :: hexadecimal 2 code
  else if code < 0x10000 then '\\' :: 'u' :: hexadecimal 4 code
  else '\\' :: 'U' :: hexadecimal 8 code

/-- A code point as it stands inside a text that `quote` encloses. -/
def quotedChar (quote c : Char) : Text :=
  if c = '\\' then ['\\', '\\']
  else if c = quote then ['\\', c]
  else if c = '\n' then ['\\', 'n']
  else if c = '\r' then ['\\', 'r']
  else if c = '\t' then ['\\', 't']
  else if isPrintable c then [c]
  else escapeCode c.toNat

def quoteFor (text : Text) : Char :=
  if text.contains '\'' && !text.contains '"' then '"' else '\''

def quoted (text : Text) : Text :=
  let quote := quoteFor text
  quote :: text.flatMap (quotedChar quote) ++ [quote]

end TextCursor.Text
