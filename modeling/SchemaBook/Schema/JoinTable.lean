import SchemaBook.Doc.Tag
import SchemaBook.Schema.Basic

/-!
Join tables. Two models that list each other without a column for it are many-to-many, and a
database stores such a relation in a table of its own. `withJoinTables` makes these tables explicit:
it scans the models in order, adds a model for each pair found, and gives both ends a field that
leads to it. A name that a model bears already is not used for a table, so a second pass finds
nothing to add.
-/

namespace SchemaBook

/-- The columns of a join table: for the lesser and for the greater of its two ends. -/
def joinColumns : Text × Text := ("A", "B")

/-- The relations of a join table: to the lesser and to the greater of its two ends. -/
def joinRelations : Text × Text := ("x", "y")

/-- Whether a field is one half of an implicit many-to-many relation: a list relation that neither
has columns nor is unique. -/
def Field.isBareList (f : Field) : Bool :=
  f.isRelation && f.isList && !f.isUnique && f.localColumns.isEmpty

def orderedNames (a b : Text) : Text × Text := if b.isBefore a then (b, a) else (a, b)

def joinName (a b : Text) : Text :=
  let (lesser, greater) := orderedNames a b
  "_" ++ lesser ++ "To" ++ greater

/-- The names to choose from: the base itself, then the base with 2, 3, … behind it. -/
def nameCandidate (base : Text) : Nat → Text
  | 0 => base
  | n + 1 => base ++ "_" ++ toString (n + 2)

/-- The first candidate from `n` on that is not used, within the given number of steps. -/
def searchName (base : Text) (used : List Text) : Nat → Nat → Text
  | 0, n => nameCandidate base n
  | steps + 1, n =>
    if used.contains (nameCandidate base n) then searchName base used steps (n + 1)
    else nameCandidate base n

/-- The first candidate that is not used. Among one more candidates than there are used names one is
free, so the search needs no more steps than that. -/
def freshName (base : Text) (used : List Text) : Text :=
  searchName base used used.length 0

/-- Whether two relation names contradict each other: both are given and they differ. -/
def relationNamesClash (a b : Option Text) : Bool :=
  match a, b with
  | some s, some t => !s.isEmpty && !t.isEmpty && s != t
  | _, _ => false

/-- The other half of a bare list on the target: the first bare list that leads back to the owner
under no other relation name, and is not the field itself. -/
def counterpart? (owner : Model) (field : Field) (target : Model) : Option Field :=
  target.fields.find? fun f =>
    f.isBareList && f.type == owner.name &&
      !(target.name == owner.name && f.name == field.name) &&
      !relationNamesClash field.relationName f.relationName

def joinKeys (tag : Text) (lesser greater : Model) : List Text :=
  firstOccurrences (Tag.keys tag lesser.documentation ++ Tag.keys tag greater.documentation)

/-- The tag lines of a join table: the chapters of both ends, so that the table follows them. -/
def joinTagLines (lesser greater : Model) : List Text :=
  Tag.grouping.flatMap fun tag =>
    (joinKeys tag lesser greater).map fun key => Tag.mark tag ++ " " ++ key

def joinDocumentation (lesser greater : Model) : Option Text :=
  match joinTagLines lesser greater with
  | [] => none
  | tagLines => some (Text.joinLines tagLines)

/-- The relation name that a column of a join table shares with the end it refers to. -/
def joinRelationName (table column : Text) : Text := table ++ "_" ++ column

def joinColumn (column : Text) (target : Model) : Field where
  name := column
  type := target.keyColumn.2

def joinRelation (table relation column : Text) (target : Model) : Field where
  name := relation
  type := target.name
  kind := .relation
  relationName := some (joinRelationName table column)
  localColumns := [column]
  foreignColumns := [target.keyColumn.1]

def joinModel (lesser greater : Model) : Model :=
  let table := joinName lesser.name greater.name
  { name := table
    fields := [
      joinColumn joinColumns.1 lesser,
      joinColumn joinColumns.2 greater,
      joinRelation table joinRelations.1 joinColumns.1 lesser,
      joinRelation table joinRelations.2 joinColumns.2 greater]
    documentation := joinDocumentation lesser greater
    uniqueIndexes := [[joinColumns.1, joinColumns.2]] }

/-- The list field by which an end leads to its join table. -/
def joinListField (table column : Text) (m : Model) : Field where
  name := freshName table (m.fields.map (·.name))
  type := table
  kind := .relation
  isList := true
  relationName := some (joinRelationName table column)

/-- The model with a list field that leads to its join table. -/
def Model.linkedTo (m : Model) (table column : Text) : Model :=
  { m with fields := m.fields ++ [joinListField table column m] }

/-- The place of the first model of a name. -/
def modelPlace? (models : List Model) (name : Text) : Option Nat :=
  models.findIdx? (·.name == name)

/-- Adds the join table of the models at two places, the one with the lesser name first. -/
def addJoinTable (models : List Model) (lesser greater : Nat) : List Model :=
  match models[lesser]?, models[greater]? with
  | some low, some high =>
    let table := joinName low.name high.name
    let linked := (models.modify lesser (·.linkedTo table joinColumns.1)).modify greater
      (·.linkedTo table joinColumns.2)
    linked ++ [joinModel low high]
  | _, _ => models

/-- Adds the join table of one field of an owner, if the field is half of a many-to-many relation
and the name of the table is free. -/
def joinField (owner : Model) (models : List Model) (field : Field) : List Model :=
  if !field.isBareList then models
  else
    match modelPlace? models owner.name, modelPlace? models field.type with
    | some here, some there =>
      match models[there]? with
      | none => models
      | some target =>
        if (counterpart? owner field target).isNone then models
        else if (modelPlace? models (joinName owner.name target.name)).isSome then models
        else if target.name.isBefore owner.name then addJoinTable models there here
        else addJoinTable models here there
    | _, _ => models

def joinOwner (models : List Model) (owner : Model) : List Model :=
  owner.fields.foldl (joinField owner) models

/-- The models with every implicit many-to-many relation made explicit: the given models in order,
with the list fields that they gain, then the join tables in the order in which they are found. -/
def withJoinTables (models : List Model) : List Model := models.foldl joinOwner models

end SchemaBook
