import SchemaBook.Book.Document
import SchemaBook.CommandLine.Arguments
import SchemaBook.Loader.SchemaFile

/-!
The command: it loads a schema file with a reader of YAML, tells what is doubtful about the schema,
and writes the document. All that it does before writing depends on the arguments and the schema
file alone, and is a value; only then a file is touched.
-/

namespace SchemaBook

def commandName : Text := "erd-markdown"

inductive CommandFault where
  /-- The option for a path has no value, so that there is nothing to do this with. -/
  | noPath (wanted : String)
  | load (fault : LoadFault)
  | document (fault : DocumentFault)
  | write (fault : WriteFault)

def CommandFault.message : CommandFault → Text
  | .noPath wanted => "'list' object has no attribute '" ++ wanted ++ "'"
  | .load fault => fault.message
  | .document fault => fault.message
  | .write fault => fault.message

inductive Ending where
  | exit (code : Nat)
  | fault (fault : CommandFault)

/-- What the command has to do once the schema is read: nothing, or write a document. -/
inductive Plan where
  | stop (ending : Ending)
  | write (document : Text)

/-- The configuration with the title that the arguments give, if it is not empty. -/
def titledConfig (config : Entries) (title : Option Text) : Entries :=
  match title with
  | some title =>
    if title.isEmpty then config else Entries.put config (.text "title") (.text title)
  | none => config

structure Report where
  stderr : List Text := []
  plan : Plan

def reportOn (options : Options) (schema : Schema) : Report :=
  let errors := errorMessages schema.models
  let warnings := warningMessages schema.models
  let warned := warnings.map (Text.ofString "warning: " ++ ·)
  if !errors.isEmpty || (options.strict && !warnings.isEmpty) then
    { stderr := warned ++ errors.map (Text.ofString "error: " ++ ·), plan := .stop (.exit 2) }
  else
    match writeDocument schema.models (titledConfig schema.config options.title) with
    | .ok document => { stderr := warned, plan := .write document }
    | .error fault => { stderr := warned, plan := .stop (.fault (.document fault)) }

/-- The report on a schema file; `look` says what stands at a path. -/
def report (read : YamlReader Value) (options : Options) (look : FilePath → PathState) : Report :=
  match options.schema.map FilePath.ofText with
  | none => { plan := .stop (.fault (.noPath "exists")) }
  | some path =>
    let loading := loadModels read path.text (look path)
    match loading.result with
    | .error fault => { stderr := loading.notices, plan := .stop (.fault (.load fault)) }
    | .ok schema =>
      let further := reportOn options schema
      { further with stderr := loading.notices ++ further.stderr }

def ArgumentStop.stderr : ArgumentStop → List Text
  | .help => []
  | .misuse message => [commandName ++ ": error: " ++ message]

def ArgumentStop.ending : ArgumentStop → Ending
  | .help => .exit 0
  | .misuse _ => .exit 2

/-- A run of the command: the tree it leaves, what it reports and how it ends. -/
structure CommandRun where
  tree : FileTree
  stderr : List Text
  ending : Ending

def runCommand (read : YamlReader Value) (arguments : List Text) (tree : FileTree) : CommandRun :=
  match Arguments.parse arguments with
  | .error stop => { tree, stderr := stop.stderr, ending := stop.ending }
  | .ok options =>
    let report := report read options tree.lookup
    match report.plan, options.out with
    | .stop ending, _ => { tree, stderr := report.stderr, ending }
    | .write _, none => { tree, stderr := report.stderr, ending := .fault (.noPath "parent") }
    | .write document, some out =>
      match tree.writeText (FilePath.ofText out) document with
      | (reached, none) => { tree := reached, stderr := report.stderr, ending := .exit 0 }
      | (reached, some fault) =>
        { tree := reached, stderr := report.stderr, ending := .fault (.write fault) }

end SchemaBook
