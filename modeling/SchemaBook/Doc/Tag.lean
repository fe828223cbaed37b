import SchemaBook.OrderedSet
import SchemaBook.Text.Integer

/-!
Tags in documentation text. A tag stands anywhere on a line as an at sign, its name and one space;
the rest of the line, trimmed, is its value. Only the first marker of a tag on a line counts, values
never span lines, and a value that is empty is none. A flag is a tag of which only the marker
counts: an at sign and the name, before white space or the end of the line.
-/

namespace SchemaBook

/-- The lines of a documentation text; without a text there are none. -/
def documentationLines (documentation : Option Text) : List Text :=
  Text.lines (documentation.getD [])

namespace Tag

def namespaceTag : Text := "namespace"

def describeTag : Text := "describe"

def erdTag : Text := "erd"

/-- The tags that put a model into chapters. -/
def grouping : List Text := [namespaceTag, describeTag, erdTag]

/-- The flag that takes a model out of the book. -/
def hiddenTag : Text := "hidden"

def formatTag : Text := "format"

/-- The tag that bounds the number of items of a relation from below. -/
def minItemsTag : Text := "minItems"

def mark (tag : Text) : Text := "@" ++ tag

def valueOnLine? (tag : Text) (line : Text) : Option (Text) :=
  match Text.after? (mark tag ++ " ") line with
  | none => none
  | some rest =>
    let value := Text.trim rest
    if value.isEmpty then none else some value

def values (tag : Text) (documentation : Option Text) : List Text :=
  (documentationLines documentation).filterMap (valueOnLine? tag)

/-- The first words of the values of a tag, each once. -/
def keys (tag : Text) (documentation : Option Text) : List Text :=
  firstOccurrences ((values tag documentation).map Text.firstWord)

/-- Whether what follows a mark ends the name of the flag. -/
def endsName (rest : Text) : Bool := rest.head?.all CodePoint.isBlank

def isOnLine (tag : Text) (line : Text) : Bool :=
  (Text.allAfter (mark tag) line).any endsName

def isSet (tag : Text) (documentation : Option Text) : Bool :=
  (documentationLines documentation).any (isOnLine tag)

/-- The first word of the first value as an integer; a value that is none counts as absent. -/
def firstInt? (tag : Text) (documentation : Option Text) : Option Int :=
  match values tag documentation with
  | [] => none
  | value :: _ => (Text.readInt (Text.firstWord value)).toOption

end Tag

end SchemaBook
