import SchemaBook.Text.Integer
import SchemaBook.Text.Quoted

/-!
What can be wrong with a YAML text: its form, or the text of a scalar that has the form of a number
or timestamp and is none.
-/

namespace SchemaBook.Yaml

inductive ScalarFault where
  /-- An escape names a code beyond the last one. -/
  | noSuchCode
  /-- An escape names a code of more than thirty-one bits. -/
  | codeTooLarge
  | yearOutOfRange (year : Nat)
  | monthOutOfRange
  | dayOutOfRange
  | hourOutOfRange
  | minuteOutOfRange
  | secondOutOfRange
  /-- What a time is ahead of the common time, in minutes, is no less than a day. -/
  | offsetOutOfRange (offset : Int)
  /-- A timestamp by its tag that has not the form of one. -/
  | noTimestamp
  /-- A timestamp by its tag that is a mapping. -/
  | timestampOfMapping
  /-- A scalar by its tag that is a mapping and has itself as its default value. -/
  | endless
  | noInteger (base : Nat) (text : Text)
  | integerTooLong (digits : Nat)
  /-- A number by its tag that has no digits at all. -/
  | noDigits
  | noFloat (text : Text)
  | floatTooLarge
  /-- A truth value by its tag that is no word for one. -/
  | noTruthValue (text : Text)
  deriving DecidableEq, Repr

inductive Fault where
  | malformed
  | scalar (fault : ScalarFault)
  deriving DecidableEq, Repr

/-- The number of code points of a text that is no integer that are shown. -/
def excerptLength : Nat := 200

def excerpt (text : Text) : Text := text.take excerptLength

/-- A span of minutes as a number of days, which may be negative, and the seconds behind them. -/
def spanText (minutes : Int) : Text :=
  let days := minutes / 1440
  let seconds := minutes % 1440 * 60
  let parts : List String :=
    (if days = 0 then [] else ["days=" ++ toString days]) ++
      (if seconds = 0 then [] else ["seconds=" ++ toString seconds])
  "datetime.timedelta(" ++ ", ".intercalate parts ++ ")"

def ScalarFault.message : ScalarFault → Text
  | .noSuchCode => "chr() arg not in range(0x110000)"
  | .codeTooLarge => "Python int too large to convert to C int"
  | .yearOutOfRange year => "year " ++ toString year ++ " is out of range"
  | .monthOutOfRange => "month must be in 1..12"
  | .dayOutOfRange => "day is out of range for month"
  | .hourOutOfRange => "hour must be in 0..23"
  | .minuteOutOfRange => "minute must be in 0..59"
  | .secondOutOfRange => "second must be in 0..59"
  | .offsetOutOfRange offset =>
    "offset must be a timedelta strictly between -timedelta(hours=24) and timedelta(hours=24), " ++
      "not " ++ spanText offset ++ "."
  | .noTimestamp => "'NoneType' object has no attribute 'groupdict'"
  | .timestampOfMapping => "expected string or bytes-like object, got 'list'"
  | .endless => "maximum recursion depth exceeded"
  | .noInteger base text =>
    "invalid literal for int() with base " ++ toString base ++ ": " ++ excerpt (Text.quoted text)
  | .integerTooLong digits => Text.tooLongMessage digits
  | .noDigits => "string index out of range"
  | .noFloat text => "could not convert string to float: " ++ Text.quoted text
  | .floatTooLarge => "int too large to convert to float"
  | .noTruthValue text => Text.quoted text

end SchemaBook.Yaml
