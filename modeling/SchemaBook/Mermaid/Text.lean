import SchemaBook.Text.Reference
import SchemaBook.Text.Split

/-!
Text inside a Mermaid diagram. A label may hold any text: references are expanded, white space runs
become one space, and the characters that would end the label are written as codes. A word holds
only word characters, hyphens and brackets, and starts with a word character that is no digit.
-/

namespace SchemaBook.Mermaid

/-- A decimal reference in a label that has more digits than a number may have. -/
structure LabelFault where
  digits : Nat
  deriving DecidableEq, Repr

def labelCode (c : CodePoint) : Text :=
  match c with
  | .char '&' => "#amp;"
  | .char '<' => "#lt;"
  | .char '>' => "#gt;"
  | .char '"' => "#quot;"
  | .char '|' => "#124;"
  | other => [other]

/-- A text as a label, its references taken as they can be read. -/
def labelText (text : Text) : Text :=
  (Text.join " " (Text.words (Text.expand text))).flatMap labelCode

def labelFault? (text : Text) : Option LabelFault := (Text.excessDigits? text).map LabelFault.mk

def label (text : Text) : Except LabelFault Text :=
  match labelFault? text with
  | some fault => .error fault
  | none => .ok (labelText text)

def isWordPart (c : CodePoint) : Bool := c.isWord || c.isOneOf "-[]()"

def isWordStart (c : CodePoint) : Bool := c.isWord && !c.isDigit

/-- A text as a word: what may not stand in one becomes a low line, and a low line goes before what
may not start one. -/
def word (text : Text) : Text :=
  let kept := (Text.trim text).map fun c => if isWordPart c then c else '_'
  if kept.head?.any isWordStart then kept else '_' :: kept

end SchemaBook.Mermaid
