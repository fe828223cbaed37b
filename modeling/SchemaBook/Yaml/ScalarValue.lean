import SchemaBook.Decimal.Reading
import SchemaBook.Text.LowerCase
import SchemaBook.Text.Integer
import SchemaBook.Text.Reference
import SchemaBook.Value.Basic
import SchemaBook.Yaml.Octets
import SchemaBook.Yaml.ScalarType

/-!
The values of scalars. Low lines group digits and are dropped. A text that has the type only by its
tag may have any form, so every reader has its faults.
-/

namespace SchemaBook.Yaml

namespace ScalarValue

def fail {α : Type} (fault : ScalarFault) : Except Fault α := .error (.scalar fault)

/-- The value of a digit in a base: a letter, or a decimal digit of any script. -/
def baseDigit? (base : Nat) (c : CodePoint) : Option Nat :=
  ((Text.hexValue? c).or c.digitValue?).bind fun n => if n < base then some n else none

/-- The letters that may stand between a zero and the digits of a base. -/
def baseLetters (base : Nat) : String := if base = 2 then "bB" else if base = 8 then "oO" else "xX"

/-- The digits without a zero and the letter of the base in front. -/
def dropBaseLetter (base : Nat) : Text → Text
  | .char '0' :: letter :: rest =>
    if letter.isOneOf (baseLetters base) then rest else '0' :: letter :: rest
  | rest => rest

def inBase (base : Nat) (cs : Text) : Except Fault Int :=
  let bare := Text.trimPadding cs
  let digits := dropBaseLetter base (ScalarType.unsigned bare)
  let values := digits.filterMap (baseDigit? base)
  if digits.isEmpty || values.length != digits.length then fail (.noInteger base cs)
  else
    let size : Int := Text.ofDigits base values
    .ok (if bare.head? = some (.char '-') then -size else size)

def inDecimal (cs : Text) : Except Fault Int :=
  match Text.readInt cs with
  | .ok n => .ok n
  | .error .malformed => fail (.noInteger 10 cs)
  | .error (.tooLong digits) => fail (.integerTooLong digits)

/-- The text without low lines. -/
def ungrouped (text : Text) : Text := text.filter (· != '_')

/-- A number without its sign, and whether that was a minus sign. -/
def withoutSign (cs : Text) : Except Fault (Bool × Text) :=
  match cs with
  | [] => fail .noDigits
  | .char '-' :: rest => .ok (true, rest)
  | .char '+' :: rest => .ok (false, rest)
  | rest => .ok (false, rest)

/-- The size of an integer. -/
def intSize (cs : Text) : Except Fault Int :=
  match cs with
  | [] => fail .noDigits
  | [.char '0'] => .ok 0
  | .char '0' :: .char 'b' :: rest => inBase 2 rest
  | .char '0' :: .char 'x' :: rest => inBase 16 rest
  | .char '0' :: rest => inBase 8 ('0' :: rest)
  | _ =>
    if cs.contains ':' then do
      let places ← (ScalarType.places cs).mapM inDecimal
      return places.foldl (fun value place => 60 * value + place) 0
    else inDecimal cs

def int (text : Text) : Except Fault Value := do
  let (negative, cs) ← withoutSign (ungrouped text)
  let size ← intSize cs
  return .int (if negative then -size else size)

/-- The mantissa and exponent of a decimal: the digits around the point, and the exponent. -/
def decimalParts? (cs : Text) : Option (List Nat × Int) := do
  let whole := cs.takeWhile CodePoint.isDigit
  let behind := cs.dropWhile CodePoint.isDigit
  let hasPoint := behind.head? == some (.char '.')
  let places := if hasPoint then behind.tail.takeWhile CodePoint.isDigit else []
  let behind := if hasPoint then behind.tail.dropWhile CodePoint.isDigit else behind
  let digits := (whole ++ places).filterMap CodePoint.digitValue?
  if digits.isEmpty then none
  else
    match behind with
    | [] => return (digits, -(places.length : Int))
    | e :: rest =>
      let power := (ScalarType.unsigned rest).filterMap CodePoint.digitValue?
      if e == 'e' && !power.isEmpty && power.length == (ScalarType.unsigned rest).length then
        let size : Int := Text.ofDigits 10 power
        return (digits, (if rest.head? == some (.char '-') then -size else size) - places.length)
      else none

/-- A float in decimal notation, in small letters and with padding around it allowed. -/
def decimalFloat (cs : Text) : Except Fault Float :=
  let bare := Text.trimPadding cs
  let size := ScalarType.unsigned bare
  let signed (x : Float) : Float := if bare.head? == some (.char '-') then -x else x
  if size = "inf" ∨ size = "infinity" then .ok (signed (1.0 / 0.0))
  else if size = "nan" then .ok (0.0 / 0.0)
  else
    match decimalParts? size with
    | some (digits, exponent) =>
      .ok (signed (Decimal.nearestFloat (Text.ofDigits 10 digits) digits.length exponent))
    | none => fail (.noFloat cs)

/-- The number of places in base sixty whose weight is within the range of floats. -/
def floatPlaces : Nat := 173

def floatOfPlaces (places : List Float) : Except Fault Float :=
  if floatPlaces < places.length - 1 then fail .floatTooLarge
  else
    .ok ((places.zipIdx.foldl
      (fun value (place, power) =>
        value + place * Decimal.nearestFloat (Nat.pow 60 power) (2 * power + 1) 0)) 0.0)

def undefinedWord : Text := ".nan"

def float (text : Text) : Except Fault Value := do
  let (negative, cs) ← withoutSign (Text.lower (ungrouped text))
  let size ←
    if cs = ".inf" then .ok (1.0 / 0.0)
    else if cs = undefinedWord then .ok (0.0 / 0.0)
    else if cs.contains ':' then do
      let places ← (ScalarType.places cs).mapM decimalFloat
      floatOfPlaces places.reverse
    else decimalFloat cs
  return .float (if negative then -size else size)

/-- A timestamp. One line feed at the end is looked over. -/
def timestamp (text : Text) : Except Fault Value :=
  match Timestamp.ofText? (ScalarType.withoutLineFeed text) with
  | some t => t.value.mapError .scalar
  | none => fail .noTimestamp

def octets (text : Text) : Except Fault Value :=
  match Octets.ofText? text with
  | some found => .ok (.foreign (octetsObject found))
  | none => .error .malformed

def bool (text : Text) : Except Fault Value :=
  let word := Text.lower text
  if word = "yes" ∨ word = "true" ∨ word = "on" then .ok (.bool true)
  else if word = "no" ∨ word = "false" ∨ word = "off" then .ok (.bool false)
  else fail (.noTruthValue word)

/-- Whether a text is the word for the result that is no number, as a float is read. All scalars
with this word have one value, while a result that is no number in decimal notation equals no
other. -/
def isUndefinedWord (text : Text) : Bool :=
  ScalarType.unsigned (Text.lower (ungrouped text)) == undefinedWord

end ScalarValue

/-- The value of a scalar of a type; the marks that have a meaning as a key are none. -/
def scalarValue (type : ScalarType) (text : Text) : Except Fault Value :=
  match type with
  | .null => .ok .null
  | .bool => ScalarValue.bool text
  | .int => ScalarValue.int text
  | .float => ScalarValue.float text
  | .timestamp => ScalarValue.timestamp text
  | .octets => ScalarValue.octets text
  | .text => .ok (.text text)
  | .merge | .default => .error .malformed

end SchemaBook.Yaml
