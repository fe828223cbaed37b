import SchemaBook.Mermaid.Text
import SchemaBook.Text.Quoted

/-!
The lines of an entity-relationship diagram: boxes with one line per attribute, and relationship
lines with a crow's foot at either end. The functions named for lines write what is given; those
that answer with a fault look first whether the texts can be labels.
-/

namespace SchemaBook.Mermaid

def inQuotes (text : Text) : Text := "\"" ++ text ++ "\""

/-- The quoted label of an entity, its text taken as it can be read. -/
def entityLabel (name : Text) : Text := inQuotes (labelText name)

def entity (name : Text) : Except LabelFault Text := (label name).map inQuotes

/-- An attribute: type and name as words, then the keys and the quoted comment where given. -/
def attributeLine (type name keys : Text) (comment : Option Text) : Text :=
  let comment := comment.getD []
  Text.join " " <| [word type, word name] ++
    (if keys.isEmpty then [] else [keys]) ++
    (if comment.isEmpty then [] else [inQuotes (labelText comment)])

def attributeText (type name keys : Text) (comment : Option Text) : Except LabelFault Text :=
  match labelFault? (comment.getD []) with
  | some fault => .error fault
  | none => .ok (attributeLine type name keys comment)

/-- The line that opens the box of an entity. -/
def headerLine (name : Text) : Text := entityLabel name ++ " \x7b"

def closingLine : Text := "\x7d"

def entityLines (name : Text) (attributes : List Text) : List Text :=
  headerLine name :: attributes.map ("  " ++ ·) ++ [closingLine]

/-- The lines of the box of an entity whose name can be a label. -/
def entityBlock (name : Text) (attributes : List Text) : Except LabelFault (List Text) :=
  match labelFault? name with
  | some fault => .error fault
  | none => .ok (entityLines name attributes)

structure Multiplicity where
  many : Bool
  optional : Bool
  deriving DecidableEq, Repr

namespace Multiplicity

def leftText : Multiplicity → Text
  | ⟨false, true⟩ => "|o"
  | ⟨false, false⟩ => "||"
  | ⟨true, true⟩ => "\x7do"
  | ⟨true, false⟩ => "\x7d|"

def rightText : Multiplicity → Text
  | ⟨false, true⟩ => "o|"
  | ⟨false, false⟩ => "||"
  | ⟨true, true⟩ => "o\x7b"
  | ⟨true, false⟩ => "|\x7b"

def all : List Multiplicity := [⟨false, true⟩, ⟨false, false⟩, ⟨true, true⟩, ⟨true, false⟩]

def ofLeft? (text : Text) : Option Multiplicity := all.find? (·.leftText == text)

def ofRight? (text : Text) : Option Multiplicity := all.find? (·.rightText == text)

theorem ofLeft?_leftText (m : Multiplicity) : ofLeft? m.leftText = some m := by
  rcases m with ⟨_ | _, _ | _⟩ <;> decide

theorem ofRight?_rightText (m : Multiplicity) : ofRight? m.rightText = some m := by
  rcases m with ⟨_ | _, _ | _⟩ <;> decide

end Multiplicity

def relationshipLine (source : Text) (left : Multiplicity) (target : Text)
    (right : Multiplicity) (name : Text) : Text :=
  entityLabel source ++ " " ++ left.leftText ++ "--" ++ right.rightText ++ " " ++
    entityLabel target ++ " : " ++ word name

inductive RelationshipFault where
  | unknownFoot (text : Text)
  | label (fault : LabelFault)
  deriving DecidableEq, Repr

def relationship (source left target right name : Text) : Except RelationshipFault Text :=
  match Multiplicity.ofLeft? left, Multiplicity.ofRight? right with
  | none, _ => .error (.unknownFoot left)
  | some _, none => .error (.unknownFoot right)
  | some leftEnd, some rightEnd =>
    match (labelFault? source).or (labelFault? target) with
    | some fault => .error (.label fault)
    | none => .ok (relationshipLine source leftEnd target rightEnd name)

def LabelFault.message (fault : LabelFault) : Text := Text.tooLongMessage fault.digits

def RelationshipFault.message : RelationshipFault → Text
  | .unknownFoot text => "unsupported erDiagram marker: " ++ Text.quoted text
  | .label fault => fault.message

def block (source : Text) : Text :=
  "```mermaid\n" ++ Text.trimEnd source ++ "\n```\n"

end SchemaBook.Mermaid
