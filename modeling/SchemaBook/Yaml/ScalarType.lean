import SchemaBook.Text.Split
import SchemaBook.Yaml.Timestamp

/-!
The type of a scalar that has no tag, found from its text: a truth value, an integer, a float, a
timestamp, null, a mark that has a meaning as a key, or else a text. Octets are told by a tag only.
-/

namespace SchemaBook.Yaml

/-- The type of a scalar. -/
inductive ScalarType where
  | null
  | bool
  | int
  | float
  | timestamp
  | octets
  | text
  /-- The key whose value is merged into the mapping. -/
  | merge
  /-- The key of the default value. -/
  | default
  deriving DecidableEq, Repr

namespace ScalarType

def truthWords : List Text := [
  "yes", "Yes", "YES", "no", "No", "NO", "true", "True", "TRUE", "false", "False", "FALSE",
  "on", "On", "ON", "off", "Off", "OFF"]

def nullWords : List Text := ["~", "null", "Null", "NULL", ""]

def infinityWords : List Text := [".inf", ".Inf", ".INF"]

def undefinedWords : List Text := [".nan", ".NaN", ".NAN"]

/-- Whether a code point is an octal digit or a low line. -/
def isOctalPart (c : CodePoint) : Bool := c.isBetween '0' '7' || c == '_'

/-- Whether a code point is a decimal digit or a low line. -/
def isDecimalPart (c : CodePoint) : Bool := c.isAsciiDigit || c == '_'

/-- Whether a code point is a hexadecimal digit or a low line. -/
def isHexPart (c : CodePoint) : Bool :=
  c.isAsciiDigit || c.isBetween 'a' 'f' || c.isBetween 'A' 'F' || c == '_'

def unsigned : Text → Text
  | .char '+' :: rest | .char '-' :: rest => rest
  | rest => rest

/-- Whether there is at least one code point and all satisfy the test. -/
def isRun (test : CodePoint → Bool) (cs : Text) : Bool := !cs.isEmpty && cs.all test

/-- Whether a digit starts the text and only digits and low lines follow. -/
def isDigits : Text → Bool
  | first :: rest => first.isAsciiDigit && rest.all isDecimalPart
  | [] => false

/-- Whether the text is a number below sixty of at most two digits. -/
def isSixtieth : Text → Bool
  | [d] => d.isAsciiDigit
  | [d, e] => d.isBetween '0' '5' && e.isAsciiDigit
  | _ => false

/-- Whether the text has one digit that is not zero in front of digits and low lines. -/
def isLeadingNumber : Text → Bool
  | first :: rest => first.isBetween '1' '9' && rest.all isDecimalPart
  | [] => false

def places (cs : Text) : List Text := Text.splitWhere (· == CodePoint.char ':') cs

/-- Whether the text is a number in base sixty, its first place satisfying the test. -/
def isSexagesimal (leading : Text → Bool) (cs : Text) : Bool :=
  match places cs with
  | first :: others => leading first && !others.isEmpty && others.all isSixtieth
  | [] => false

/-- Whether the text is an integer: binary, octal, decimal, hexadecimal or in base sixty. -/
def isInt (cs : Text) : Bool :=
  match unsigned cs with
  | [.char '0'] => true
  | .char '0' :: .char 'b' :: rest => isRun (·.isOneOf "01_") rest
  | .char '0' :: .char 'x' :: rest => isRun isHexPart rest
  | .char '0' :: rest => isRun isOctalPart rest
  | rest => isLeadingNumber rest || isSexagesimal isLeadingNumber rest

def isExponent : Text → Bool
  | [] => true
  | e :: sign :: rest =>
    e.isOneOf "eE" && sign.isOneOf "+-" && isRun CodePoint.isAsciiDigit rest
  | _ => false

/-- Whether the text consists of decimal places and an exponent or none. -/
def isFraction (cs : Text) : Bool := isExponent (cs.dropWhile isDecimalPart)

/-- Whether the text is a number in base sixty with a point. -/
def isSexagesimalFloat (cs : Text) : Bool :=
  let whole := cs.takeWhile (· != CodePoint.char '.')
  match cs.drop whole.length with
  | _ :: behind => isSexagesimal isDigits whole && behind.all isDecimalPart
  | [] => false

/-- Whether the text is a float: a decimal with a point, a number in base sixty with one, infinity
or the result that is no number. A decimal that starts with its point has no sign. -/
def isFloat (cs : Text) : Bool :=
  let rest := unsigned cs
  let whole := rest.takeWhile isDecimalPart
  let behind := rest.dropWhile isDecimalPart
  (isDigits whole && behind.head? == some (.char '.') && isFraction behind.tail) ||
    (match cs with
      | .char '.' :: digit :: behind => digit.isAsciiDigit && isFraction behind
      | _ => false) ||
    isSexagesimalFloat rest || infinityWords.contains rest || undefinedWords.contains cs

def ofBareText (text : Text) : ScalarType :=
  if truthWords.contains text then .bool
  else if isFloat text then .float
  else if isInt text then .int
  else if text = "<<" then .merge
  else if nullWords.contains text then .null
  else if (Timestamp.ofText? text).any Timestamp.isPlain then .timestamp
  else if text = "=" then .default
  else .text

def withoutLineFeed (text : Text) : Text :=
  if text.getLast? = some (.char '\n') then text.dropLast else text

/-- The type of a text. One line feed at the end is looked over, but does not make a text empty. -/
def ofText (text : Text) : ScalarType :=
  if text = "\n" then .text else ofBareText (withoutLineFeed text)

end ScalarType

end SchemaBook.Yaml
