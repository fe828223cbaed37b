import SchemaBook.Text.Reference
import SchemaBook.Text.Split
import SchemaBook.Value.Display
import SchemaBook.Yaml.Fault

/-!
Timestamps: a day, or a moment, which is a day with a time and perhaps with what this time is ahead
of the common time. Days are values of their own; of a moment only its wordings and its place in
time are kept.
-/

namespace SchemaBook.Yaml

/-- A time of day. -/
structure Clock where
  hour : Nat
  minute : Nat
  second : Nat
  microsecond : Nat
  /-- The minutes by which the time is ahead of the common time, if it tells. -/
  offset? : Option Int

/-- The parts of a timestamp, the day in its digits. -/
structure Timestamp where
  year : Text
  month : Text
  day : Text
  clock? : Option Clock

namespace Timestamp

def number (digits : Text) : Nat := Text.ofDigits 10 (digits.filterMap Text.hexValue?)

/-- Whether the text consists of one or two digits. -/
def isShort (cs : Text) : Bool :=
  (cs.length == 1 || cs.length == 2) && cs.all CodePoint.isAsciiDigit

/-- The number in the two digits behind a colon, and the rest. -/
def behindColon? : Text → Option (Nat × Text)
  | .char ':' :: tens :: ones :: rest =>
    if tens.isAsciiDigit && ones.isAsciiDigit then some (number [tens, ones], rest) else none
  | _ => none

/-- The millionths that the digits behind a point say; further digits are cut off. -/
def microseconds (digits : Text) : Nat :=
  number ((digits.take 6).rightpad 6 '0')

/-- What a time is ahead of the common time, in minutes, behind the sign: hours, and perhaps
minutes. -/
def offsetOf? (cs : Text) : Option Nat :=
  let hours := cs.takeWhile CodePoint.isAsciiDigit
  let behind := cs.drop hours.length
  if !isShort hours then none
  else if behind.isEmpty then some (60 * number hours)
  else
    match behindColon? behind with
    | some (minutes, []) => some (60 * number hours + minutes)
    | _ => none

/-- What stands behind the seconds of a time: nothing, or what tells the offset. -/
def zoneOf? (cs : Text) : Option (Option Int) :=
  if cs.isEmpty then some none
  else
    match cs.dropWhile (·.isOneOf " \t") with
    | [.char 'Z'] => some (some 0)
    | .char '+' :: rest => (offsetOf? rest).map fun minutes => some (minutes : Int)
    | .char '-' :: rest => (offsetOf? rest).map fun minutes => some (-(minutes : Int))
    | _ => none

def clockOf? (cs : Text) : Option Clock := do
  let hour := cs.takeWhile CodePoint.isAsciiDigit
  let (minute, behind) ← behindColon? (cs.drop hour.length)
  let (second, behind) ← behindColon? behind
  let hasPoint := behind.head? == some (.char '.')
  let places := if hasPoint then behind.tail.takeWhile CodePoint.isAsciiDigit else []
  let zone := if hasPoint then behind.tail.drop places.length else behind
  let offset? ← zoneOf? zone
  if isShort hour then
    return {
      hour := number hour
      minute
      second
      microsecond := microseconds places
      offset?
    }
  else none

/-- The time behind a day, which a letter or spaces set apart. -/
def clockBehind? : Text → Option Clock
  | .char 'T' :: rest | .char 't' :: rest => clockOf? rest
  | rest => clockOf? (rest.dropWhile (·.isOneOf " \t"))

/-- A timestamp of four digits for the year; month and day may have one digit. -/
def ofText? (cs : Text) : Option Timestamp :=
  let front := cs.takeWhile (!·.isOneOf "Tt \t")
  let behind := cs.drop front.length
  match Text.splitWhere (· == CodePoint.char '-') front with
  | [year, month, day] =>
    if !(year.length == 4 && year.all CodePoint.isAsciiDigit && isShort month && isShort day) then
      none
    else if behind.isEmpty then some { year, month, day, clock? := none }
    else (clockBehind? behind).map fun clock => { year, month, day, clock? := some clock }
  | _ => none

/-- Whether a timestamp shows by its form that it is one: a day alone does so with two digits for
month and day. -/
def isPlain (t : Timestamp) : Bool :=
  t.clock?.isSome || (t.month.length == 2 && t.day.length == 2)

end Timestamp

def isLeapYear (year : Nat) : Bool := year % 4 == 0 && (year % 100 != 0 || year % 400 == 0)

def daysOf (year month : Nat) : Nat :=
  if month = 2 then (if isLeapYear year then 29 else 28)
  else if [4, 6, 9, 11].contains month then 30
  else 31

/-- A day of the calendar, or what keeps the numbers from being one. -/
def checkDay (year month day : Nat) : Except ScalarFault Unit :=
  if year = 0 then .error (.yearOutOfRange year)
  else if month = 0 ∨ 12 < month then .error .monthOutOfRange
  else if day = 0 ∨ daysOf year month < day then .error .dayOutOfRange
  else .ok ()

def checkClock (clock : Clock) : Except ScalarFault Unit :=
  if 23 < clock.hour then .error .hourOutOfRange
  else if 59 < clock.minute then .error .minuteOutOfRange
  else if 59 < clock.second then .error .secondOutOfRange
  else .ok ()

/-- An offset is less than a day. -/
def checkOffset : Option Int → Except ScalarFault Unit
  | some offset => if offset.natAbs < 1440 then .ok () else .error (.offsetOutOfRange offset)
  | none => .ok ()

namespace Clock

/-- The time of day, with millionths of a second only if there are any. -/
def text (clock : Clock) : Text :=
  let whole := [clock.hour, clock.minute, clock.second].map (Value.paddedText 2)
  let places : Text :=
    if clock.microsecond = 0 then [] else "." ++ Value.paddedText 6 clock.microsecond
  Text.join ":" whole ++ places

def offsetText (offset : Int) : Text :=
  let sign : Text := if offset < 0 then "-" else "+"
  sign ++ Value.paddedText 2 (offset.natAbs / 60) ++ ":" ++
    Value.paddedText 2 (offset.natAbs % 60)

/-- The numbers of the time, without seconds and their millionths where these are zero. -/
def shownNumbers (clock : Clock) : List Nat :=
  [clock.hour, clock.minute] ++
    (if clock.second = 0 ∧ clock.microsecond = 0 then []
      else if clock.microsecond = 0 then [clock.second]
      else [clock.second, clock.microsecond])

def shownZone (offset : Int) : Text :=
  if offset = 0 then "tzinfo=datetime.timezone.utc"
  else "tzinfo=datetime.timezone(" ++ spanText offset ++ ")"

end Clock

/-- The days up to a day, counted from the first year of the calendar. -/
def dayNumber (year month day : Nat) : Nat :=
  let years := year - 1
  let before := 365 * years + years / 4 - years / 100 + years / 400
  (List.range (month - 1)).foldl (fun days earlier => days + daysOf year (earlier + 1)) before + day

/-- The seconds from the first day to a moment in the common time. -/
def secondNumber (year month day : Nat) (clock : Clock) (offset : Int) : Int :=
  ((dayNumber year month day * 24 + clock.hour : Nat) * 60 + clock.minute - offset) * 60 +
    clock.second

/-- A moment. Two of them are one key of a mapping when they are at the same point of the common
time, or none of them tells it and they are written alike. -/
def momentObject (year month day : Nat) (clock : Clock) : ForeignObject where
  kind := "datetime"
  fullKind := "datetime.datetime"
  identity :=
    match clock.offset? with
    | some offset =>
      toString (secondNumber year month day clock offset) ++ "." ++ toString clock.microsecond
    | none => Value.dateText year month day ++ " " ++ clock.text
  shown? := some <| Value.bracketed "datetime.datetime("
    (([year, month, day] ++ clock.shownNumbers).map (fun n => Text.ofString (toString n)) ++
      clock.offset?.toList.map Clock.shownZone) ")"
  plain? := some <| Value.dateText year month day ++ " " ++ clock.text ++
    (clock.offset?.map Clock.offsetText).getD []
  isGiven := true
  hasItems := false

/-- The value of a timestamp. The offset is looked at before the day, the time behind it. -/
def Timestamp.value (t : Timestamp) : Except ScalarFault Value := do
  let year := number t.year
  let month := number t.month
  let day := number t.day
  match t.clock? with
  | none =>
    checkDay year month day
    return .date year month day
  | some clock =>
    checkOffset clock.offset?
    checkDay year month day
    checkClock clock
    return .foreign (momentObject year month day clock)

end SchemaBook.Yaml
