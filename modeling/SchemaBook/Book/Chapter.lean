import SchemaBook.Doc.Tag
import SchemaBook.Schema.Basic

/-!
Chapters. A book is a sequence of chapters with distinct names, each with the models that it
describes and the models that it draws; what is described is drawn too. Models go into the chapters
that their grouping tags name, in the order of first reference; a model without such tags goes into
one chapter that is kept for these.
-/

namespace SchemaBook

/-- A chapter. -/
structure Chapter where
  name : Text
  descriptions : OrderedSet Model.name
  diagrams : OrderedSet Model.name

namespace Chapter

def empty (name : Text) : Chapter where
  name
  descriptions := .empty _
  diagrams := .empty _

def draw (m : Model) (c : Chapter) : Chapter := { c with diagrams := c.diagrams.insert m }

def describe (m : Model) (c : Chapter) : Chapter :=
  { c with descriptions := c.descriptions.insert m, diagrams := c.diagrams.insert m }

def drawnOnly (c : Chapter) : List Model :=
  c.diagrams.toList.filter fun m => !c.descriptions.contains m.name

end Chapter

/-- A book: its chapters in the order in which they were first named. -/
structure Book where
  chapters : List Chapter

namespace Book

def empty : Book := ⟨[]⟩

def find? (b : Book) (name : Text) : Option Chapter := b.chapters.find? (·.name == name)

/-- The book with a chapter of the name, added at the end where there was none. -/
def take (b : Book) (name : Text) : Book :=
  if (b.find? name).isSome then b else ⟨b.chapters ++ [Chapter.empty name]⟩

def change (b : Book) (name : Text) (f : Chapter → Chapter) : Book :=
  ⟨(b.take name).chapters.map fun c => if c.name = name then f c else c⟩

/-- The chapter for models without grouping tags. -/
def defaultChapter : Text := "default"

def add (b : Book) (m : Model) : Book :=
  let keys tag := Tag.keys tag m.documentation
  let described := keys Tag.namespaceTag ++ keys Tag.describeTag
  let drawn := keys Tag.erdTag
  if described.isEmpty && drawn.isEmpty then b.change defaultChapter (Chapter.describe m)
  else
    let b := described.foldl (fun b name => b.change name (Chapter.describe m)) b
    drawn.foldl (fun b name => b.change name (Chapter.draw m)) b

def describedChapters (b : Book) : List Chapter := b.chapters.filter (!·.descriptions.isEmpty)

end Book

/-- Whether a model is kept out of the book. -/
def Model.isHidden (m : Model) : Bool := Tag.isSet Tag.hiddenTag m.documentation

/-- The models that are not kept out of the book. -/
def visibleModels (models : List Model) : List Model := models.filter (!·.isHidden)

def buildChapters (models : List Model) : Book := (visibleModels models).foldl Book.add .empty

end SchemaBook
