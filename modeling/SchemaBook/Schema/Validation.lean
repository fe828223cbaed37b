import SchemaBook.Schema.Basic
import SchemaBook.Text.Quoted

/-!
Validation. What would make diagrams ambiguous is an error: models of one name or one storage name,
fields of one name in a model. What is only left out of them is a warning: an empty schema, a
relation to a model that is not there. Issues of ignored codes are not reported, warnings of
escalated codes are reported as errors.
-/

namespace SchemaBook

inductive Severity where
  | error
  | warning
  deriving DecidableEq, Repr

def Severity.text : Severity → String
  | .error => "error"
  | .warning => "warning"

inductive Finding where
  | noModels
  /-- The models at two places have one name. -/
  | duplicateModel (name : Text) (first place : Nat)
  /-- A model has the storage name of an earlier model of another name. -/
  | sharedStorageName (first name storage : Text) (place : Nat)
  /-- A model has a second field of a name. -/
  | duplicateField (model name : Text) (modelPlace place : Nat)
  /-- A relation leads to a model that is not there. -/
  | unknownTarget (model field target : Text) (place : Nat)
  deriving DecidableEq, Repr

namespace Finding

def severity : Finding → Severity
  | .noModels | .unknownTarget .. => .warning
  | .duplicateModel .. | .sharedStorageName .. | .duplicateField .. => .error

def code : Finding → Text
  | .noModels => "W_MODELS_EMPTY"
  | .duplicateModel .. => "E_MODEL_DUPLICATE_NAME"
  | .sharedStorageName .. => "E_MODEL_DUPLICATE_STORAGE_NAME"
  | .duplicateField .. => "E_FIELD_DUPLICATE_NAME"
  | .unknownTarget .. => "W_RELATION_TARGET_UNKNOWN"

def message : Finding → Text
  | .noModels => "schema contains no models; the document will have no chapters"
  | .duplicateModel name first place =>
    "duplicate model name " ++ Text.quoted name ++ " (models[" ++ toString first ++
      "] and models[" ++ toString place ++ "]); relations targeting it are ambiguous"
  | .sharedStorageName first name storage _ =>
    "models " ++ Text.quoted first ++ " and " ++ Text.quoted name ++ " share storage name " ++
      Text.quoted storage ++ "; their diagram entities cannot be told apart"
  | .duplicateField model name _ _ =>
    "model " ++ Text.quoted model ++ " declares field " ++ Text.quoted name ++ " more than once"
  | .unknownTarget model field target _ =>
    "relation " ++ model ++ "." ++ field ++ " targets unknown model " ++ Text.quoted target ++
      "; it will not be drawn"

def path : Finding → Text
  | .noModels => "/models"
  | .duplicateModel _ _ place => "/models/" ++ toString place ++ "/name"
  | .sharedStorageName _ _ _ place => "/models/" ++ toString place ++ "/dbName"
  | .duplicateField _ _ modelPlace place =>
    "/models/" ++ toString modelPlace ++ "/fields/" ++ toString place ++ "/name"
  | .unknownTarget _ field _ place => "/models/" ++ toString place ++ "/fields/" ++ field

end Finding

structure Issue where
  severity : Severity
  code : Text
  message : Text
  path : Text
  hint : Option Text := none
  deriving DecidableEq, Repr

structure ValidationConfig where
  ignored : List Text := []
  escalated : List Text := []
  deriving DecidableEq, Repr

def ValidationConfig.report (config : ValidationConfig) (finding : Finding) : List Issue :=
  if config.ignored.contains finding.code then []
  else
    let escalates := finding.severity == .warning && config.escalated.contains finding.code
    [{ severity := if escalates then .error else finding.severity
       code := finding.code
       message := finding.message
       path := finding.path }]

/-- What the scan of the models knows: the first model of each name with its place, and the name of
the first model of each storage name. -/
structure ModelScan where
  names : List (Text × Nat) := []
  storageNames : List (Text × Text) := []
  issues : List Issue := []
  deriving DecidableEq, Repr

def scanFields (config : ValidationConfig) (model : Model) (modelPlace : Nat) :
    List Text → Nat → List Field → List Issue
  | _, _, [] => []
  | seen, place, f :: rest =>
    (if seen.contains f.name then
      config.report (.duplicateField model.name f.name modelPlace place)
    else []) ++ scanFields config model modelPlace (f.name :: seen) (place + 1) rest

/-- Scans the model at a place: its name, its storage name, its fields. -/
def ModelScan.step (config : ValidationConfig) (scan : ModelScan) (entry : Model × Nat) :
    ModelScan :=
  let (model, place) := entry
  let (names, nameIssues) :=
    match scan.names.lookup model.name with
    | some first => (scan.names, config.report (.duplicateModel model.name first place))
    | none => (scan.names ++ [(model.name, place)], [])
  let (storageNames, storageIssues) :=
    match scan.storageNames.lookup model.storageName with
    | some owner =>
      (scan.storageNames,
        if owner = model.name then []
        else config.report (.sharedStorageName owner model.name model.storageName place))
    | none => (scan.storageNames ++ [(model.storageName, model.name)], [])
  { names
    storageNames
    issues := scan.issues ++ nameIssues ++ storageIssues ++
      scanFields config model place [] 0 model.fields }

/-- Reports the relations of a model that lead to no name of the list. -/
def scanTargets (config : ValidationConfig) (names : List (Text × Nat)) (entry : Model × Nat) :
    List Issue :=
  let (model, place) := entry
  model.relations.flatMap fun f =>
    if (names.lookup f.type).isSome then []
    else config.report (.unknownTarget model.name f.name f.type place)

def validate (models : List Model) (config : ValidationConfig) : List Issue :=
  if models.isEmpty then config.report .noModels
  else
    let scan := models.zipIdx.foldl (ModelScan.step config) {}
    scan.issues ++ models.zipIdx.flatMap (scanTargets config scan.names)

/-- The messages of the issues of a severity, no code ignored or escalated. -/
def messagesOf (severity : Severity) (models : List Model) : List Text :=
  ((validate models {}).filter (·.severity == severity)).map (·.message)

def errorMessages (models : List Model) : List Text := messagesOf .error models

def warningMessages (models : List Model) : List Text := messagesOf .warning models

end SchemaBook
