import SchemaBook.Schema.Basic
import SchemaBook.Value.Display

/-!
Reading models from the data of a schema file. Entries of the wrong shape count as absent; what has
no meaning without them is refused: a model or field without a name, fields or models that are no
list, a schema document that is no mapping.
-/

namespace SchemaBook

inductive EntryNoun where
  | field
  | model
  deriving DecidableEq, Repr

def EntryNoun.text : EntryNoun → String
  | .field => "field"
  | .model => "model"

inductive SchemaFault where
  | missingName (noun : EntryNoun) (raw : Value)
  | fieldsNotList (model : Text)
  | documentNotMap
  | modelsNotList
  /-- The unique indexes are of a kind without items. -/
  | indexesNotIterable (kind : String)
  /-- An integer that becomes text is too long for it. -/
  | integerTooLong

namespace SchemaFault

def message : SchemaFault → Text
  | .missingName noun raw =>
    noun.text ++ " is missing string `name`: " ++ (raw.shown?.getD [])
  | .fieldsNotList model => "model " ++ Text.quoted model ++ " fields must be a list"
  | .documentNotMap => "schema.datamodel must be a mapping"
  | .modelsNotList => "schema.models must be a list"
  | .indexesNotIterable kind => "'" ++ kind ++ "' object is not iterable"
  | .integerTooLong => Text.noDecimalMessage

end SchemaFault

namespace Value

/-- A truth value; anything else means the default. -/
def boolOr (default : Bool) : Option Value → Bool
  | some (.bool b) => b
  | _ => default

/-- A text that is not empty; anything else means absence. -/
def text? : Option Value → Option Text
  | some (.text s) => if s.isEmpty then none else some s
  | _ => none

/-- The text of a value, with the fault for integers that have none. -/
def asText (v : Value) : Except SchemaFault Text :=
  match v.plain? with
  | some s => .ok s
  | none => .error .integerTooLong

/-- The texts and integers among the items of a list, as texts; truth values count as integers. -/
def namesOfItems : List Value → Except SchemaFault (List Text)
  | [] => .ok []
  | item :: rest =>
    match item with
    | .text _ | .int _ | .bool _ => do
      let first ← item.asText
      let others ← namesOfItems rest
      return first :: others
    | _ => namesOfItems rest

/-- A list or tuple of names; anything else means no names. -/
def names (v : Option Value) : Except SchemaFault (List Text) :=
  match v.bind sequence? with
  | some items => namesOfItems items
  | none => .ok []

/-- A database type: a name and its parameters, as a list or tuple. Anything else means absence. -/
def nativeType (v : Option Value) : Except SchemaFault (Option NativeType) :=
  match v.bind sequence? with
  | some (.text name :: rest) => do
    let params ← names rest.head?
    return some ⟨name, params⟩
  | _ => .ok none

/-- A word that is not empty; what is not given means the default, any other value its text. -/
def wordOr (default : Text) : Option Value → Except SchemaFault Text
  | some v => if v.isGiven then v.asText else .ok default
  | none => .ok default

def mappings (items : List Value) : List Value := items.filter (·.entries?.isSome)

def get? (raw : Value) (key : Text) : Option Value := raw.entries?.bind (Entries.get? · key)

/-- The value under a text key of a mapping when it counts as given. -/
def given (raw : Value) (key : Text) : Option Value := (raw.get? key).bind given?

end Value

/-- The name of an entry, or the fault that shows the entry as it stands. -/
def entryName (noun : EntryNoun) (raw : Value) : Except SchemaFault Text :=
  match Value.text? (raw.get? "name") with
  | some name => .ok name
  | none =>
    match raw.shown? with
    | some _ => .error (.missingName noun raw)
    | none => .error .integerTooLong

def Field.ofMapping (raw : Value) : Except SchemaFault Field := do
  let name ← entryName .field raw
  let type ← Value.wordOr [] (raw.get? "type")
  let kind ← Value.wordOr "scalar" (raw.get? "kind")
  let nativeType ← Value.nativeType (raw.get? "nativeType")
  let localColumns ← Value.names (raw.get? "relationFromFields")
  let foreignColumns ← Value.names (raw.get? "relationToFields")
  return {
    name
    type
    kind := FieldKind.ofText kind
    dbName := Value.text? (raw.get? "dbName")
    isList := Value.boolOr false (raw.get? "isList")
    isRequired := Value.boolOr true (raw.get? "isRequired")
    isUnique := Value.boolOr false (raw.get? "isUnique")
    isId := Value.boolOr false (raw.get? "isId")
    nativeType
    relationName := Value.text? (raw.get? "relationName")
    localColumns
    foreignColumns
    documentation := Value.text? (raw.get? "documentation")
  }

/-- The members of a compound key: a list of names, or a mapping that holds one as its fields. -/
def primaryKeyOf (v : Option Value) : Except SchemaFault (List Text) :=
  match v.bind Value.entries? with
  | some entries => Value.names (Entries.get? entries "fields")
  | none => Value.names v

/-- The unique indexes: of the items of a list or tuple, those that hold names. Whatever else has
items to look at holds no lists, so it means no indexes. -/
def uniqueIndexesOf (v : Option Value) : Except SchemaFault (List (List Text)) :=
  match v with
  | none => .ok []
  | some w =>
    if w.hasItems then do
      let indexes ← (w.sequence?.getD []).mapM fun item => Value.names (some item)
      return indexes.filter (!·.isEmpty)
    else .error (.indexesNotIterable w.exposed.fullKindName)

def Model.ofMapping (raw : Value) : Except SchemaFault Model := do
  let name ← entryName .model raw
  let items ← match (raw.given "fields").map Value.items? with
    | none => .ok []
    | some (some items) => .ok items
    | some none => .error (.fieldsNotList name)
  let fields ← (Value.mappings items).mapM Field.ofMapping
  let primaryKey ← primaryKeyOf (raw.get? "primaryKey")
  let uniqueIndexes ← uniqueIndexesOf (raw.given "uniqueFields")
  return {
    name
    fields
    dbName := Value.text? (raw.get? "dbName")
    documentation := Value.text? (raw.get? "documentation")
    primaryKey
    uniqueIndexes
  }

/-- Reads the models of a schema: the list under `models`, of the schema itself or of the document
that it holds under `datamodel`. -/
def modelsOfEntries (schema : Entries) : Except SchemaFault (List Model) := do
  let document ← match (Entries.get? schema "datamodel").map Value.entries? with
    | none => .ok schema
    | some (some entries) => .ok entries
    | some none => .error .documentNotMap
  let items ← match (Entries.given? document "models").map Value.items? with
    | none => .ok []
    | some (some items) => .ok items
    | some none => .error .modelsNotList
  (Value.mappings items).mapM Model.ofMapping

end SchemaBook
