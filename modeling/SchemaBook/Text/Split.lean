import SchemaBook.Text.Basic
import SchemaBook.Text.CharClass

/-!
Cutting text apart: at every element that satisfies a test, at white space, and at line ends.
Nothing but the cut elements is lost: the pieces of `splitWhere` hold all the others in order.
-/

namespace SchemaBook.Text

/-- The pieces between the elements that satisfy the test; there is always one piece more than such
elements. -/
def splitWhere {α : Type} (test : α → Bool) : List α → List (List α)
  | [] => [[]]
  | a :: rest =>
    if test a then [] :: splitWhere test rest
    else match splitWhere test rest with
      | [] => [[a]]
      | piece :: pieces => (a :: piece) :: pieces

theorem splitWhere_ne_nil {α : Type} (test : α → Bool) (xs : List α) :
    splitWhere test xs ≠ [] := by
  cases xs with
  | nil => simp [splitWhere]
  | cons a rest =>
    simp only [splitWhere]
    split
    · simp
    · split <;> simp

/-- The pieces hold exactly the elements that fail the test, in order. -/
theorem flatten_splitWhere {α : Type} (test : α → Bool) (xs : List α) :
    (splitWhere test xs).flatten = xs.filter (!test ·) := by
  induction xs with
  | nil => rfl
  | cons a rest ih =>
    simp only [splitWhere]
    split
    · next h => simp [h, ih]
    · next h =>
      split
      · next hs => exact absurd hs (splitWhere_ne_nil test rest)
      · next piece pieces hs =>
        rw [hs] at ih
        simp only [List.flatten_cons] at ih
        simp [h, ih]

def trimStart (cs : Text) : Text := cs.dropWhile CodePoint.isBlank

def trimEnd (cs : Text) : Text := (cs.reverse.dropWhile CodePoint.isBlank).reverse

def trim (cs : Text) : Text := trimEnd (trimStart cs)

/-- A text that ends in one line feed and no other white space. -/
def endedLine (text : Text) : Text := trimEnd text ++ "\n"

/-- The longest runs without white space. -/
def words (cs : Text) : List Text :=
  (splitWhere CodePoint.isBlank cs).filter (!·.isEmpty)

/-- The first run without white space, empty when there is none. -/
def firstWord (cs : Text) : Text := (trimStart cs).takeWhile (!·.isBlank)

/-- What follows the first run without white space. -/
def afterFirstWord (cs : Text) : Text := (trimStart cs).dropWhile (!·.isBlank)

/-- Writes a carriage return that a line feed follows, with it, as one line feed. -/
def joinReturns : Text → Text
  | .char '\r' :: .char '\n' :: rest => '\n' :: joinReturns rest
  | c :: rest => c :: joinReturns rest
  | [] => []

/-- The lines of a text in which a line feed, or a carriage return and a line feed, ends a line. An
empty text has no lines, and what follows the last line end is a line also when it is empty. -/
def lines (cs : Text) : List Text :=
  if cs.isEmpty then [] else splitWhere (· == '\n') (joinReturns cs)

/-- Whether a code point ends a line for a reader that knows all vertical controls and separators.
-/
def isLineEnd (c : CodePoint) : Bool :=
  CodePoint.inRanges c.toNat [(0xa, 0xd), (0x1c, 0x1e), (0x85, 0x85), (0x2028, 0x2029)]

/-- The lines of a text in which any line end ends a line. What follows the last line end is a line
only when it is not empty. -/
def rows (cs : Text) : List Text :=
  let pieces := splitWhere isLineEnd (joinReturns cs)
  if pieces.getLast? = some [] then pieces.dropLast else pieces

/-- What follows the first place where the pattern occurs. -/
def after? (pattern : Text) : Text → Option (Text)
  | [] => if pattern.isEmpty then some [] else none
  | c :: rest =>
    match pattern.isPrefixOf? (c :: rest) with
    | some found => some found
    | none => after? pattern rest

/-- What follows every place where the pattern occurs, places that overlap included. -/
def allAfter (pattern : Text) : Text → List Text
  | [] => if pattern.isEmpty then [[]] else []
  | c :: rest => (pattern.isPrefixOf? (c :: rest)).toList ++ allAfter pattern rest

end SchemaBook.Text
