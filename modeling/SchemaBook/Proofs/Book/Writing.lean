import SchemaBook.Book.Document
import SchemaBook.Proofs.Diagram.Syntax
import SchemaBook.Proofs.Outcome

/-!
When a book is written. Its chapters are written one by one, and only a diagram can keep a chapter
from being written. Main statement: a book of models comes out as a text exactly when every model
that one of its described chapters draws has a storage name that can be a label.
-/

namespace SchemaBook

open Mermaid

/-- Every model that one of the chapters draws has a storage name that can be a label. -/
def Drawable (chapters : List Chapter) : Prop :=
  ∀ c ∈ chapters, ∀ m ∈ c.diagrams.toList, labelFault? m.storageName = none

theorem exists_diagram_ok_iff {models : List Model} :
    (∃ text, diagram models = .ok text) ↔ ∀ m ∈ models, labelFault? m.storageName = none := by
  simp only [diagram_eq_ok_iff, exists_and_left, exists_eq, and_true]

/-- A chapter is written exactly when its diagram is. -/
theorem exists_writeChapter_ok_iff {c : Chapter} :
    (∃ text, writeChapter c = .ok text) ↔
      ∀ m ∈ c.diagrams.toList, labelFault? m.storageName = none := by
  rw [writeChapter, exists_bind_ok_iff, ← exists_diagram_ok_iff]
  constructor
  · rintro ⟨source, hsource, -⟩
    exact ⟨source, hsource⟩
  · rintro ⟨source, hsource⟩
    exact ⟨source, hsource, _, rfl⟩

theorem exists_writeBook_ok_iff {models : List Model} {config : Entries} :
    (∃ text, writeBook models config = .ok text) ↔
      Drawable (buildChapters models).describedChapters := by
  have hchapters : Drawable (buildChapters models).describedChapters ↔
      ∃ written, (buildChapters models).describedChapters.mapM writeChapter = .ok written := by
    simp only [exists_mapM_ok_iff, exists_writeChapter_ok_iff, Drawable]
  rw [hchapters, writeBook]
  dsimp only
  rw [exists_bind_ok_iff]
  constructor
  · rintro ⟨written, hwritten, -⟩
    exact ⟨written, hwritten⟩
  · rintro ⟨written, hwritten⟩
    exact ⟨written, hwritten, _, rfl⟩

end SchemaBook
