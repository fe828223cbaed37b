import SchemaBook.Text.CodePoint
import SchemaBook.Text.DigitZeros
import SchemaBook.Text.PrintableRanges
import SchemaBook.Text.WordRanges

/-!
The character classes that the book's text rules are stated in: white space, word characters,
decimal digits and printable characters. Each is a set of code points, so none depends on a locale;
no half of a surrogate pair is in any of them.
-/

namespace SchemaBook.CodePoint

open SchemaBook.Text

/-- Whether a code lies in one of the ranges. The ranges ascend, so the search ends at the
first one that reaches it. -/
def inRanges (code : Nat) : List (Nat × Nat) → Bool
  | [] => false
  | (low, high) :: rest => if code ≤ high then decide (low ≤ code) else inRanges code rest

/-- White space: the spaces and separators of all scripts, the line controls, the four information
separators and the next-line control. The zero-width characters are not among them. -/
def blankRanges : List (Nat × Nat) := [
  (0x9, 0xd), (0x1c, 0x20), (0x85, 0x85), (0xa0, 0xa0), (0x1680, 0x1680), (0x2000, 0x200a),
  (0x2028, 0x2029), (0x202f, 0x202f), (0x205f, 0x205f), (0x3000, 0x3000)]

def isBlank (c : CodePoint) : Bool := inRanges c.toNat blankRanges

/-- Whether a code point is a letter, a number of any kind or the low line. -/
def isWord (c : CodePoint) : Bool := inRanges c.toNat wordRanges

/-- Whether a code point can be shown as it is inside quotes. -/
def isPrintable (c : CodePoint) : Bool := inRanges c.toNat printableRanges

def digitValue? (c : CodePoint) : Option Nat :=
  (digitZeros.find? fun first => first ≤ c.toNat && c.toNat < first + 10).map (c.toNat - ·)

/-- Whether a code point is a decimal digit of some script. -/
def isDigit (c : CodePoint) : Bool := c.digitValue?.isSome

/-- Every character that the core library counts as white space is white space here. -/
theorem isBlank_of_isWhitespace {c : Char} (h : c.isWhitespace = true) :
    isBlank (.char c) = true := by
  simp only [Char.isWhitespace, Bool.or_eq_true, decide_eq_true_eq] at h
  rcases h with ((h | h) | h) | h <;> subst h <;> decide

end SchemaBook.CodePoint
