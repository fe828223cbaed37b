import SchemaBook.Doc.Tag
import SchemaBook.Schema.Basic

/-!
The facts of one field that diagrams and patterns show: names, types, size and the keys that it is
part of. Only the owning model knows whether a field is a foreign key, so that fact is given.
-/

namespace SchemaBook

inductive KeyMark where
  | primary
  | foreign
  | unique
  deriving DecidableEq, Repr

def KeyMark.text : KeyMark → Text
  | .primary => "PK"
  | .foreign => "FK"
  | .unique => "UK"

structure FieldFacts where
  type : Text
  name : Text
  format : Option Text
  nativeType : Option Text
  size : Option Int
  keys : List KeyMark
  nullable : Bool
  deriving DecidableEq, Repr

namespace FieldFacts

def constraint (facts : FieldFacts) : Text := Text.join "," (facts.keys.map KeyMark.text)

def nullableText : Text := "nullable"

/-- The text for a character of a pattern: type, size, database type, name, keys and the mark of a
nullable column have a letter each, every other character stands for itself. -/
def placeholder (facts : FieldFacts) (c : CodePoint) : Text :=
  match c with
  | .char 't' => facts.type
  | .char 's' => ((facts.size.map toString).getD "" : String)
  | .char 'd' =>
    match facts.nativeType with
    | some native => if native.isEmpty then facts.type else native
    | none => facts.type
  | .char 'n' => facts.name
  | .char 'k' => facts.constraint
  | .char 'r' => if facts.nullable then "\"" ++ nullableText ++ "\"" else []
  | other => [other]

end FieldFacts

namespace Field

/-- The size of the database type: its first parameter, if that is an integer. -/
def size? (f : Field) : Option Int :=
  match f.nativeType with
  | some ⟨_, first :: _⟩ => (Text.readInt first).toOption
  | _ => none

def keyMarks (f : Field) (isForeignKey : Bool) : List KeyMark :=
  (if f.isId then [.primary] else []) ++ (if isForeignKey then [.foreign] else []) ++
    (if f.isUnique then [.unique] else [])

def facts (f : Field) (isForeignKey : Bool) : FieldFacts where
  type := f.type
  name := f.storageName
  format := (Tag.values Tag.formatTag f.documentation).head?
  nativeType := f.nativeType.map (·.name)
  size := f.size?
  keys := f.keyMarks isForeignKey
  nullable := !f.isRequired

/-- A field written by a pattern. Without a pattern its type stands for it. -/
def formatted (f : Field) (isForeignKey : Bool) (pattern : Option Text) : Text :=
  let letters := pattern.getD []
  if letters.isEmpty then f.type else letters.flatMap (f.facts isForeignKey).placeholder

end Field

end SchemaBook
