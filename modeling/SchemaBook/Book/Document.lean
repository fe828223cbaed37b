import SchemaBook.Book.Chapter
import SchemaBook.Doc.Prose
import SchemaBook.Schema.Diagram
import SchemaBook.Schema.JoinTable
import SchemaBook.Schema.Validation
import SchemaBook.Value.Basic

/-!
The document: title, table of contents and chapters. A schema is prepared first: it is validated,
hidden models are dropped and join tables made explicit. Only chapters that describe a model are
written.
-/

namespace SchemaBook

inductive DocumentFault where
  | ambiguous (errors : List Text)
  | label (fault : Mermaid.LabelFault)
  deriving DecidableEq, Repr

def DocumentFault.message : DocumentFault → Text
  | .ambiguous errors => "invalid schema: " ++ Text.join "; " errors
  | .label fault => fault.message

def defaultTitle : Text := "Prisma Markdown"

/-- The title that a configuration gives, if it is a text that is not blank. -/
def titleOf (config : Entries) : Text :=
  match Entries.get? config "title" with
  | some (.text s) =>
    let title := Text.trim s
    if title.isEmpty then defaultTitle else title
  | _ => defaultTitle

def prepareModels (models : List Model) : Except DocumentFault (List Model) :=
  match errorMessages models with
  | [] => .ok (withJoinTables (visibleModels models))
  | errors => .error (.ambiguous errors)

/-- A chapter: heading, diagram and the descriptions of its models. -/
def writeChapter (c : Chapter) : Except Mermaid.LabelFault Text := do
  let source ← diagram c.diagrams.toList
  return "## " ++ c.name ++ "\n\n" ++ Mermaid.block source ++ "\n" ++
    Text.join "\n\n" (c.descriptions.toList.map describeModel)

def writeContents (chapters : List Chapter) : Text :=
  Text.joinLines (chapters.map fun c => "- [" ++ c.name ++ "](#" ++ c.name ++ ")")

def writeBook (models : List Model) (config : Entries) : Except Mermaid.LabelFault Text := do
  let chapters := (buildChapters models).describedChapters
  let written ← chapters.mapM writeChapter
  let parts := ("# " ++ titleOf config) ::
    (if chapters.isEmpty then [] else [writeContents chapters, Text.join "\n\n\n" written])
  return Text.endedLine (Text.join "\n\n" parts)

def writeDocument (models : List Model) (config : Entries) : Except DocumentFault Text :=
  match prepareModels models with
  | .error fault => .error fault
  | .ok prepared => (writeBook prepared config).mapError .label

end SchemaBook
