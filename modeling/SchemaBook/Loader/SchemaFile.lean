import SchemaBook.Loader.FileTree
import SchemaBook.Loader.Repair
import SchemaBook.Loader.YamlReader
import SchemaBook.Schema.Reading

/-!
Loading a schema file with a reader of YAML. A text that is malformed is repaired and read once
more; notices tell what was changed. Where the reader raises another error, nothing is repaired, and
the error is handed on as it is.
-/

namespace SchemaBook

/-- Why a schema file cannot be loaded. -/
inductive LoadFault where
  | notFound (path : Text)
  /-- The path cannot be looked up. -/
  | system (kind : FileFaultKind) (path : Text)
  | isDirectory (path : Text)
  | encoding (fault : Text.Utf8Fault)
  | malformed (path reason : Text)
  /-- The reader raised an error of its own. -/
  | reading (error : RaisedError)
  | notMap (path : Text) (kind : String)
  | configNotMap (path : Text)
  | schema (fault : SchemaFault)

/-- How the refusal of a malformed text begins. -/
def refusal (path : Text) : Text := "Failed to parse schema " ++ path

namespace LoadFault

def kind : LoadFault → ErrorKind
  | .notFound _ => .notFound
  | .system .. => .system
  | .isDirectory _ | .malformed .. | .schema .integerTooLong => .value
  | .encoding _ => .decoding
  | .reading error => error.kind
  | .notMap .. | .configNotMap _ | .schema _ => .type

def message : LoadFault → Text
  | .notFound path => path
  | .system kind path => kind.messageAt path
  | .isDirectory path => "schema path must be a file, got directory " ++ path
  | .encoding fault => fault.message
  | .malformed path reason => refusal path ++ ": " ++ reason
  | .reading error => error.message
  | .notMap path kind => "Top-level schema must be a mapping in " ++ path ++ ", got " ++ kind
  | .configNotMap path => "schema.config must be a mapping in " ++ path
  | .schema fault => fault.message

def ofReader (path : Text) : ReadFault → LoadFault
  | .malformed reason => .malformed path reason
  | .raised error => .reading error

end LoadFault

/-- A result, and the notices that loading gave on the way to it. -/
structure Loading (α : Type) where
  notices : List Text := []
  result : Except LoadFault α

def Loading.andThen {α β : Type} (l : Loading α) (next : α → Except LoadFault β) : Loading β where
  notices := l.notices
  result := l.result.bind next

def shownChanges : Nat := 10

def repairNotices (path : Text) (changes : List Repair.Change) : List Text :=
  let first : Text :=
    "warning: parsed " ++ path ++ " after sanitizing " ++ toString changes.length ++
    " line(s); quote documentation values that contain ': '"
  let told := (changes.take shownChanges).map fun change =>
    "warning: " ++ path ++ ":" ++ toString change.line ++ ": read as " ++
      Text.trim change.after
  let further :=
    if changes.length ≤ shownChanges then []
    else [Text.ofString <| "warning: (and " ++ toString (changes.length - shownChanges) ++ " more)"]
  first :: told ++ further

/-- The data of a schema text. -/
def readSchemaText {α : Type} (read : YamlReader α) (path raw : Text) : Loading α :=
  match read raw with
  | .ok data => { result := .ok data }
  | .error (.raised error) => { result := .error (.reading error) }
  | .error (.malformed reason) =>
    let (repaired, changes) := Repair.repair raw
    if changes.isEmpty then { result := .error (.malformed path reason) }
    else
      match read repaired with
      | .ok data => { notices := repairNotices path changes, result := .ok data }
      | .error fault => { result := .error (.ofReader path fault) }

def unifyLineEnds (cs : Text) : Text :=
  (Text.joinReturns cs).map fun (c : CodePoint) => if c = '\r' then '\n' else c

def readText (octets : List UInt8) : Except LoadFault Text :=
  match Text.decodeUtf8 (octets.map UInt8.toNat) with
  | .ok cs => .ok (unifyLineEnds cs)
  | .error fault => .error (.encoding fault)

abbrev PathState := Except FileFaultKind (Option FileNode)

/-- The mapping that a schema file holds; what is given is what stands at its path. -/
def loadSchema (read : YamlReader Value) (path : Text) (state : PathState) : Loading Entries :=
  match state with
  | .error kind => { result := .error (.system kind path) }
  | .ok none => { result := .error (.notFound path) }
  | .ok (some .directory) => { result := .error (.isDirectory path) }
  | .ok (some (.file octets)) =>
    match readText octets with
    | .error fault => { result := .error fault }
    | .ok raw =>
      (readSchemaText read path raw).andThen fun data =>
        match data.entries? with
        | some entries => .ok entries
        | none => .error (.notMap path data.kindName)

/-- A schema: its models and its configuration. -/
structure Schema where
  models : List Model
  config : Entries

def Schema.ofEntries (path : Text) (entries : Entries) : Except LoadFault Schema := do
  let config ← match (Entries.given? entries "config").map Value.entries? with
    | none => .ok []
    | some (some config) => .ok config
    | some none => .error (.configNotMap path)
  let models ← (modelsOfEntries entries).mapError LoadFault.schema
  return { models, config }

def loadModels (read : YamlReader Value) (path : Text) (state : PathState) : Loading Schema :=
  (loadSchema read path state).andThen (Schema.ofEntries path)

end SchemaBook
