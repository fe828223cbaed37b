import SchemaBook.Text.Split

/-!
Repair of a schema text that is no YAML. The usual mistake is free text with a colon in it that
stands without quotes behind one of a few keys; such a value is put into quotation marks. All other
lines stay as they are.
-/

namespace SchemaBook.Repair

/-- The keys whose values are free text. -/
def textKeys : List Text := ["documentation", "title", "name", "dbName", "type"]

/-- A line that was changed: its number, counted from one, and its text before and after. -/
structure Change where
  line : Nat
  before : Text
  after : Text
  deriving DecidableEq, Repr

def afterKey? (cs : Text) : Option (Text) :=
  textKeys.findSome? fun key => (key ++ ":" : Text).isPrefixOf? cs

/-- A line as the part up to its value and the value: white space, a hyphen with white space or
none, one of the keys, a colon, white space, and a value that is not empty. -/
def entry? (line : Text) : Option (Text × Text) :=
  let start := line.dropWhile CodePoint.isBlank
  let start :=
    match start with
    | .char '-' :: rest => rest.dropWhile CodePoint.isBlank
    | other => other
  match afterKey? start with
  | none => none
  | some rest =>
    let value := rest.dropWhile CodePoint.isBlank
    let value := if value.isEmpty then rest.drop (rest.length - 1) else value
    if value.isEmpty then none else some (line.take (line.length - value.length), value)

/-- Whether a value starts as a quoted scalar, a block scalar or a collection in brackets does. -/
def isEnclosed (value : Text) : Bool :=
  value.head?.any (·.isOneOf "'\"|>[\x7b")

def hasOpenColon : Text → Bool
  | [] => false
  | c :: rest => (c == ':' && rest.head?.all CodePoint.isBlank) || hasOpenColon rest

def escape (c : CodePoint) : Text := if c.isOneOf "\\\"" then ['\\', c] else [c]

def enclose (value : Text) : Text := "\"" ++ value.flatMap escape ++ "\""

/-- The line with its value in quotation marks, where it needs them. -/
def repairedLine? (line : Text) : Option (Text) :=
  match entry? line with
  | none => none
  | some (lead, value) =>
    if !isEnclosed value && hasOpenColon value then some (lead ++ enclose value) else none

/-- The lines with the changes to them, counted from the given number. -/
def repairLines (number : Nat) : List Text → List Text × List Change
  | [] => ([], [])
  | line :: rest =>
    let (others, changes) := repairLines (number + 1) rest
    match repairedLine? line with
    | some repaired =>
      (repaired :: others, ⟨number, line, repaired⟩ :: changes)
    | none => (line :: others, changes)

/-- The text with its lines repaired, and the changes. Line ends become line feeds, and the text
ends in one if it did so before. -/
def repair (text : Text) : Text × List Change :=
  let (repaired, changes) := repairLines 1 (Text.rows text)
  let ending : Text := if text.getLast? = some (.char '\n') then "\n" else []
  (Text.joinLines repaired ++ ending, changes)

end SchemaBook.Repair
