import SchemaBook.Decimal.Shortest
import SchemaBook.Decimal.FloatParts

/-!
The text of floating-point numbers: shortest digits, written with a decimal point as long as the
first digit's place is within the bounds of the format, else with an exponent.
-/

namespace SchemaBook.Decimal

structure Format where
  /-- The least place of the first digit that is written with a decimal point. -/
  positionalFrom : Int
  /-- The place of the first digit from which on an exponent is written. -/
  positionalBelow : Int
  /-- The least number of digits of an exponent. -/
  exponentWidth : Nat
  /-- The text of infinity. -/
  infinity : String
  /-- The text of a result that is no number. -/
  undefinedResult : String

/-- Digits without the zeros at their end; one digit stays. -/
def dropEndZeros (digits : List Char) : List Char :=
  match digits with
  | [] => []
  | first :: rest => first :: (rest.reverse.dropWhile (· == '0')).reverse

def exponentText (width : Nat) (place : Int) : List Char :=
  (if place < 0 then '-' else '+') :: (Nat.toDigits 10 place.natAbs).leftpad width '0'

/-- The digits with a decimal point that stands behind the unit place. -/
def positional (digits : List Char) (place : Int) : List Char :=
  if place < 0 then
    ['0', '.'] ++ List.replicate (-place - 1).toNat '0' ++ digits
  else
    let count := place.toNat + 1
    let whole := digits.take count
    let rest := digits.drop count
    whole ++ List.replicate (count - whole.length) '0' ++
      '.' :: (if rest.isEmpty then ['0'] else rest)

/-- The digits with a decimal point behind the first, and an exponent. -/
def scientific (width : Nat) (digits : List Char) (place : Int) : List Char :=
  match digits with
  | [] => []
  | [digit] => digit :: 'e' :: exponentText width place
  | digit :: rest => digit :: '.' :: rest ++ 'e' :: exponentText width place

def Format.digits (format : Format) (x : Digits) : List Char :=
  let written := Nat.toDigits 10 x.digits
  let place : Int := x.exponent + (written.length - 1 : Nat)
  let kept := dropEndZeros written
  if format.positionalFrom ≤ place ∧ place < format.positionalBelow then positional kept place
  else scientific format.exponentWidth kept place

def Format.text (format : Format) (x : Float) : String :=
  let (negative, biased, fraction) := parts x
  let sign := if negative then "-" else ""
  if biased = infiniteExponent then
    if fraction = 0 then sign ++ format.infinity else format.undefinedResult
  else
    match size? biased fraction with
    | none => sign ++ "0.0"
    | some size => sign ++ String.ofList (format.digits size.shortest)

end SchemaBook.Decimal
