import SchemaBook.Text.Split

/-!
Whole numbers in decimal notation: an optional sign and digits of any script, which single low
lines may group. The notation is bounded: more digits than `digitLimit` are refused on reading, and
a number that needs more has no decimal text.
-/

namespace SchemaBook.Text

def digitLimit : Nat := 4300

/-- The value of a sequence of digits in a base, the most significant first. -/
def ofDigits (base : Nat) (digits : List Nat) : Nat :=
  digits.foldl (fun value digit => base * value + digit) 0

inductive IntegerFault where
  | malformed
  | tooLong (digits : Nat)
  deriving DecidableEq, Repr

/-- White space that may surround a number: all of it but the information separators. -/
def isPadding (c : CodePoint) : Bool := c.isBlank && !c.isBetween '\x1c' '\x1f'

def trimPadding (cs : Text) : Text :=
  ((cs.dropWhile isPadding).reverse.dropWhile isPadding).reverse

/-- The digits of a notation without sign: groups of digits with a low line between two groups. -/
def groupedDigits? (cs : Text) : Option (List Nat) :=
  let groups := splitWhere (· == CodePoint.char '_') cs
  if groups.all fun group => !group.isEmpty && group.all CodePoint.isDigit then
    some (groups.flatten.filterMap CodePoint.digitValue?)
  else none

/-- The number at the start of a text, and what follows its digits and low lines. The digits are
counted before anything behind them is looked at. -/
def natAtStart (cs : Text) : Except IntegerFault (Nat × Text) :=
  let run := cs.takeWhile fun (c : CodePoint) => c.isDigit || c == '_'
  match groupedDigits? run with
  | none => .error .malformed
  | some digits =>
    if digits.length ≤ digitLimit then .ok (ofDigits 10 digits, cs.drop run.length)
    else .error (.tooLong digits.length)

/-- The number that a decimal notation without sign stands for; padding may follow it. -/
def readNat (cs : Text) : Except IntegerFault Nat := do
  let (n, rest) ← natAtStart cs
  if rest.all isPadding then return n else .error .malformed

/-- The number that a decimal notation stands for, with padding around it allowed. -/
def readInt (cs : Text) : Except IntegerFault Int :=
  match cs.dropWhile isPadding with
  | .char '-' :: rest => (readNat rest).map fun n => -(n : Int)
  | .char '+' :: rest => (readNat rest).map fun n => (n : Int)
  | rest => (readNat rest).map fun n => (n : Int)

def hasDecimal (n : Int) : Bool := n.natAbs < Nat.pow 10 digitLimit

def tooLongText : String :=
  "Exceeds the limit (" ++ toString digitLimit ++ " digits) for integer string conversion"

def tooLongAdvice : String := "; use sys.set_int_max_str_digits() to increase the limit"

def noDecimalMessage : String := tooLongText ++ tooLongAdvice

def tooLongMessage (digits : Nat) : String :=
  tooLongText ++ ": value has " ++ toString digits ++ " digits" ++ tooLongAdvice

end SchemaBook.Text
