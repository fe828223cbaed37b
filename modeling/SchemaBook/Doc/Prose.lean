import SchemaBook.Doc.Link
import SchemaBook.Doc.Tag
import SchemaBook.Schema.Basic

/-!
Documentation text as prose: blank lines and tag lines at its edges are dropped, links are resolved.
A model is described by its prose and a list of its columns, each with its own.
-/

namespace SchemaBook

def isBlankOrTag (line : Text) : Bool := (Text.trim line).head?.all (· == .char '@')

/-- The list without the elements at both ends that satisfy the test. -/
def dropEdges {α : Type} (test : α → Bool) (xs : List α) : List α :=
  ((xs.dropWhile test).reverse.dropWhile test).reverse

def proseLines (documentation : Option Text) : List Text :=
  (dropEdges isBlankOrTag (documentationLines documentation)).map Link.resolve

def prose (documentation : Option Text) : Text :=
  Text.joinLines (proseLines documentation)

/-- A column as a list item: its name, with its prose behind it or, line by line, below it. -/
def describeField (f : Field) : Text :=
  let item := "    - `" ++ f.storageName ++ "`"
  match (proseLines f.documentation).filter (!·.isEmpty) with
  | [] => item
  | [line] => item ++ ": " ++ line
  | described => Text.joinLines (item :: described.map ("      - " ++ ·))

/-- A model as a section: heading, prose and the list of its columns. -/
def describeModel (m : Model) : Text :=
  let description := prose m.documentation
  Text.joinLines <|
    ("### " ++ m.storageName) :: (if description.isEmpty then [] else [description]) ++
      ([[], "  - Properties"] : List Text) ++ m.columns.map describeField

end SchemaBook
