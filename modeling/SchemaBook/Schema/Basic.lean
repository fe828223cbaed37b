import SchemaBook.OrderedSet
import SchemaBook.Text.Basic

/-!
The schema that a book describes: models with their fields. A field is a column or a relation to
another model; the names by which a database stores them may differ from the logical names.
-/

namespace SchemaBook

/-- A database type with its parameters. -/
structure NativeType where
  name : Text
  params : List Text
  deriving DecidableEq, Repr

/-- What a field is: a relation to another model, or a column of the kind that the label names. -/
inductive FieldKind where
  | relation
  | column (label : Text)
  deriving DecidableEq, Repr

namespace FieldKind

def relationWord : Text := "object"

def ofText (text : Text) : FieldKind := if text = relationWord then .relation else .column text

def text : FieldKind → Text
  | .relation => relationWord
  | .column label => label

/-- A kind reads back from its word when it does not label a column as a relation. -/
theorem ofText_text {kind : FieldKind} (h : kind ≠ .column relationWord) :
    ofText kind.text = kind := by
  cases kind with
  | relation => simp [ofText, text]
  | column label =>
    have hne : label ≠ relationWord := fun e => h (e ▸ rfl)
    simp [ofText, text, hne]

end FieldKind

/-- One attribute of a model. -/
structure Field where
  name : Text
  /-- The type of a column, or the name of the model that a relation leads to. -/
  type : Text
  kind : FieldKind := .column "scalar"
  /-- The name in the database where it differs. -/
  dbName : Option Text := none
  isList : Bool := false
  isRequired : Bool := true
  isUnique : Bool := false
  isId : Bool := false
  nativeType : Option NativeType := none
  /-- The name that both ends of a relation share. -/
  relationName : Option Text := none
  /-- The columns of this model that a relation is stored in. -/
  localColumns : List Text := []
  /-- The columns of the other model that they refer to. -/
  foreignColumns : List Text := []
  documentation : Option Text := none
  deriving DecidableEq, Repr

/-- One entity of a schema. -/
structure Model where
  name : Text
  fields : List Field := []
  /-- The name in the database where it differs. -/
  dbName : Option Text := none
  documentation : Option Text := none
  primaryKey : List Text := []
  uniqueIndexes : List (List Text) := []
  deriving DecidableEq, Repr

/-- The database name where one is given and not empty, else the logical name. -/
def storageNameOf (dbName : Option Text) (name : Text) : Text :=
  match dbName with
  | some given => if given.isEmpty then name else given
  | none => name

namespace Field

def storageName (f : Field) : Text := storageNameOf f.dbName f.name

def isRelation (f : Field) : Bool := f.kind == .relation

end Field

namespace Model

def storageName (m : Model) : Text := storageNameOf m.dbName m.name

/-- The first field of a name. -/
def field? (m : Model) (name : Text) : Option Field := m.fields.find? (·.name == name)

def columns (m : Model) : List Field := m.fields.filter (!·.isRelation)

def relations (m : Model) : List Field := m.fields.filter (·.isRelation)

/-- Whether a relation of the model is stored in the field, by its logical or its database name. -/
def isForeignKey (m : Model) (f : Field) : Bool :=
  m.relations.any fun r => r.localColumns.contains f.name || f.dbName.any r.localColumns.contains

/-- The first field of the primary key: a field marked as key, else the first member of the compound
key that is a field. -/
def keyField? (m : Model) : Option Field :=
  (m.fields.find? (·.isId)).or (m.primaryKey.findSome? m.field?)

/-- The name of the key that is assumed where a model declares none. -/
def assumedKeyName : Text := "id"

/-- The type of the key that is assumed where a model declares none. -/
def assumedKeyType : Text := "String"

def keyColumn (m : Model) : Text × Text :=
  match m.keyField? with
  | some f => (f.name, f.type)
  | none => (assumedKeyName, assumedKeyType)

end Model

/-- The models by logical name; the first of each name stands for it. -/
def modelIndex (models : List Model) : OrderedSet Model.name := OrderedSet.ofList Model.name models

/-- Where names are distinct, a model is alone with its name. -/
theorem filter_name_of_mem {models : List Model} (hnames : (models.map (·.name)).Nodup) {m : Model}
    (h : m ∈ models) : (models.filter fun other => other.name == m.name) = [m] := by
  rw [← OrderedSet.filter_key_of_mem hnames h]
  refine List.filter_congr fun other _ => ?_
  rw [Bool.eq_iff_iff, beq_iff_eq, decide_eq_true_iff]

/-- The other end of a relation: the first relation on a model of the relation's type that leads
back to the owner under the same relation name, and is not the relation itself. -/
def oppositeField? (models : List Model) (owner : Model) (field : Field) : Option Field :=
  (models.filter (·.name == field.type)).findSome? fun target =>
    target.relations.find? fun f =>
      !(target.name == owner.name && f.name == field.name) &&
        f.relationName == field.relationName && f.type == owner.name

end SchemaBook
