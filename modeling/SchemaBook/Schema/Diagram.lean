import SchemaBook.Mermaid.Entity
import SchemaBook.Schema.Facts

/-!
The entity-relationship diagram of a group of models: a box per model with a line per column, then a
line for every relation that is stored in a column of its owner and leads into the group. A diagram
is a list of lines; only a storage name that cannot be a label keeps it from being drawn.
-/

namespace SchemaBook

open Mermaid

def columnLine (m : Model) (f : Field) : Text :=
  let facts := f.facts (m.isForeignKey f)
  attributeLine facts.type facts.name facts.constraint
    (if facts.nullable then some FieldFacts.nullableText else none)

def localColumn? (m : Model) (name : Text) : Option Field :=
  m.columns.find? fun f => f.name == name || f.dbName == some name

/-- Whether at least one item is demanded of a relation. -/
def demandsItem (opposite : Option Field) : Bool :=
  match opposite.bind fun f => Tag.firstInt? Tag.minItemsTag f.documentation with
  | some least => 1 ≤ least
  | none => false

/-- The owner's end of a relation: one record where the column is unique or a key, else many. It may
be absent where the column is nullable, or where the opposite end of a one-to-one relation is not
required, unless at least one item is demanded. -/
def ownerEnd (column : Field) (opposite : Option Field) : Multiplicity :=
  let single := column.isId || column.isUnique
  { many := !single
    optional := !demandsItem opposite &&
      (!column.isRequired || (single && opposite.any (!·.isRequired))) }

/-- The target's end of a relation: one record, which may be absent where a model leads to itself.
-/
def targetEnd (owner target : Model) : Multiplicity where
  many := false
  optional := target.name == owner.name

/-- The line of a relation, where the group has its target and the owner its column. -/
def relationLine? (group : OrderedSet Model.name) (owner : Model) (field : Field) :
    Option Text := do
  let name ← field.localColumns.head?
  let column ← localColumn? owner name
  let target ← group.find? field.type
  let opposite := oppositeField? group.toList owner field
  return relationshipLine owner.storageName (ownerEnd column opposite)
    target.storageName (targetEnd owner target) field.name

def boxLines (m : Model) : List Text :=
  entityLines m.storageName (m.columns.map (columnLine m))

def relationLines (group : OrderedSet Model.name) (m : Model) : List Text :=
  m.relations.filterMap (relationLine? group m)

def openingLine : Text := "erDiagram"

def diagramLines (models : List Model) : List Text :=
  openingLine :: models.flatMap boxLines ++ models.flatMap (relationLines (modelIndex models))

def diagramFault? (models : List Model) : Option LabelFault :=
  models.findSome? fun m => labelFault? m.storageName

def diagram (models : List Model) : Except LabelFault Text :=
  match diagramFault? models with
  | some fault => .error fault
  | none => .ok (Text.joinLines (diagramLines models))

end SchemaBook
