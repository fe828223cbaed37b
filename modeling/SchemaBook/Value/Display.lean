import SchemaBook.Decimal.Notation
import SchemaBook.Text.Integer
import SchemaBook.Text.Quoted
import SchemaBook.Value.Basic

/-!
The text of values. `shown?` writes a value as messages show it, with texts in quotes; `plain?`
writes it as it becomes a name, where a text stands for itself. A collection that holds itself is
written once and stands as points in brackets inside itself. Both fail only on an integer that is
too long for a decimal notation, be it in an object of another kind.
-/

namespace SchemaBook.Value

/-- Floats have a decimal point from 0.0001 up to 10^16, then an exponent of two digits or more. -/
def floatFormat : Decimal.Format where
  positionalFrom := -4
  positionalBelow := 16
  exponentWidth := 2
  infinity := "inf"
  undefinedResult := "nan"

def intText? (n : Int) : Option Text :=
  if Text.hasDecimal n then some (toString n) else none

def boolText (b : Bool) : Text := if b then "True" else "False"

/-- A number with zeros in front up to the width. -/
def paddedText (width n : Nat) : Text := Text.ofChars ((Nat.toDigits 10 n).leftpad width '0')

def dateText (year month day : Nat) : Text :=
  paddedText 4 year ++ "-" ++ paddedText 2 month ++ "-" ++ paddedText 2 day

def bracketed (opening : String) (parts : List Text) (closing : String) : Text :=
  opening ++ Text.join ", " parts ++ closing

/-- A tuple of the parts. A comma tells one of a single part from a part in brackets. -/
def tupleText (parts : List Text) : Text :=
  bracketed "(" parts (if parts.length = 1 then ",)" else ")")

/-- What stands for a collection inside itself. -/
def loopText (content : Value) : Text :=
  match content with
  | .map _ => "\x7b...\x7d"
  | .tuple _ => "(...)"
  | _ => "[...]"

mutual

/-- A value inside the collections of the given labels as messages show it. -/
def shownInside? (labels : List (Nat × Text)) : Value → Option Text
  | .null => some "None"
  | .bool b => some (boolText b)
  | .int n => intText? n
  | .float x => some (floatFormat.text x)
  | .text s => some (Text.quoted s)
  | .date year month day =>
    some (bracketed "datetime.date(" [toString year, toString month, toString day] ")")
  | .list items => (shownItems? labels items).map (bracketed "[" · "]")
  | .tuple items => (shownItems? labels items).map tupleText
  | .map entries => (shownEntries? labels entries).map (bracketed "\x7b" · "\x7d")
  | .knot label content =>
    match labels.lookup label with
    | some known => some known
    | none => shownInside? ((label, loopText content) :: labels) content
  | .loop label => some ((labels.lookup label).getD "...")
  | .foreign object => object.shown?

def shownItems? (labels : List (Nat × Text)) : List Value → Option (List Text)
  | [] => some []
  | item :: rest => do
    let first ← shownInside? labels item
    let others ← shownItems? labels rest
    return first :: others

def shownEntries? (labels : List (Nat × Text)) : List (Value × Value) → Option (List Text)
  | [] => some []
  | (key, value) :: rest => do
    let left ← shownInside? labels key
    let right ← shownInside? labels value
    let others ← shownEntries? labels rest
    return (left ++ ": " ++ right) :: others

end

def shown? (v : Value) : Option Text := shownInside? [] v

def plain? : Value → Option Text
  | .text s => some s
  | .date year month day => some (dateText year month day)
  | .foreign object => object.plain?
  | v => v.shown?

end SchemaBook.Value
