import SchemaBook.Text.Basic
import SchemaBook.Text.CharClass

/-!
Text in quotes, as messages show it: apostrophes around it, or quotation marks where the text holds
an apostrophe and no quotation mark. A backslash and the quote in use are escaped by a backslash,
and a code point that is not printable is written by its code.
-/

namespace SchemaBook.Text

/-- The lower-case hexadecimal digits of a number, with zeros in front up to the width. -/
def hexadecimal (width n : Nat) : Text := ofChars ((Nat.toDigits 16 n).leftpad width '0')

def escapeCode (code : Nat) : Text :=
  if code ≤ 0xff then "\\x" ++ hexadecimal 2 code
  else if code ≤ 0xffff then "\\u" ++ hexadecimal 4 code
  else "\\U" ++ hexadecimal 8 code

def escapeChar (quote c : CodePoint) : Text :=
  if c = '\\' ∨ c = quote then ['\\', c]
  else if c = '\t' then "\\t"
  else if c = '\n' then "\\n"
  else if c = '\r' then "\\r"
  else if c.isPrintable then [c]
  else escapeCode c.toNat

def quoted (text : Text) : Text :=
  let quote : CodePoint := if text.contains '\'' && !text.contains '"' then '"' else '\''
  quote :: text.flatMap (escapeChar quote) ++ [quote]

/-- The string of a text, the halves of surrogate pairs by their escapes. -/
def shownString (text : Text) : String :=
  String.ofList ((text.flatMap fun c => if c.isHalf then escapeCode c.toNat else [c]).filterMap
    CodePoint.char?)

end SchemaBook.Text
