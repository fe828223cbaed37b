import SchemaBook.Book.Document
import SchemaBook.Proofs.Book.Chapters
import SchemaBook.Proofs.Wording.Schema

/-!
Documents of models with their documentation worded anew. Diagrams, descriptions and the chapters of
a book read documentation by its lines, as preparation does. Main statement: a wording that keeps
the lines keeps the document, or the fault in its place.
-/

namespace SchemaBook

open Mermaid

/-- The set with every element changed; a change that keeps the keys keeps them distinct. -/
def OrderedSet.map {α κ : Type} {key : α → κ} (g : α → α) (s : OrderedSet key) : OrderedSet key :=
  ⟨s.toList.map g⟩

theorem OrderedSet.find?_map {α κ : Type} [DecidableEq κ] {key : α → κ} {g : α → α}
    (hg : ∀ a, key (g a) = key a) (s : OrderedSet key) (k : κ) :
    (s.map g).find? k = (s.find? k).map g := by
  simp only [find?, map, List.find?_map, Function.comp_def, hg]

theorem OrderedSet.ofList_map {α κ : Type} [DecidableEq κ] {key : α → κ} {g : α → α}
    (hg : ∀ a, key (g a) = key a) (xs : List α) :
    ofList key (xs.map g) = (ofList key xs).map g := by
  have hinsert : ∀ (s : OrderedSet key) (a : α), (s.map g).insert (g a) = (s.insert a).map g := by
    intro s a
    have hknown : (s.map g).contains (key (g a)) = s.contains (key a) := by
      rw [contains, find?_map hg, hg, Option.isSome_map, contains]
    rw [insert, hknown, insert]
    split
    · rfl
    · simp only [map, List.map_append, List.map_singleton]
  rw [ofList, List.foldl_map, ofList]
  change xs.foldl (fun s a => s.insert (g a)) ((empty key).map g) = _
  exact List.foldl_hom (map g) hinsert

def Placement.reworded (w : Option Text → Option Text) (p : Placement) : Placement :=
  { p with model := p.model.reworded w }

def Chapter.reworded (w : Option Text → Option Text) (c : Chapter) : Chapter where
  name := c.name
  descriptions := c.descriptions.map (·.reworded w)
  diagrams := c.diagrams.map (·.reworded w)

section Reworded

variable {w : Option Text → Option Text}

theorem modelIndex_reworded (models : List Model) :
    modelIndex (models.map (·.reworded w)) = (modelIndex models).map (·.reworded w) :=
  OrderedSet.ofList_map (fun _ => rfl : ∀ m : Model, (m.reworded w).name = m.name) models

theorem localColumn?_reworded (m : Model) (name : Text) :
    localColumn? (m.reworded w) name = (localColumn? m name).map (·.reworded w) := by
  rw [localColumn?, Model.columns_reworded, List.find?_map]
  rfl

theorem oppositeField?_reworded (models : List Model) (owner : Model) (f : Field) :
    oppositeField? (models.map (·.reworded w)) (owner.reworded w) (f.reworded w) =
      (oppositeField? models owner f).map (·.reworded w) := by
  rw [oppositeField?, List.filter_map, List.findSome?_map, oppositeField?, List.map_findSome?]
  congr 1
  funext target
  simp only [Function.comp_apply, Model.relations_reworded, List.find?_map]
  rfl

theorem chapter_after_reworded (run : List Placement) (name : Text) :
    Chapter.after (run.map (·.reworded w)) name = (Chapter.after run name).reworded w := by
  have hplaced : ∀ test : Text → Bool → Bool,
      OrderedSet.ofList Model.name
          (((run.map (·.reworded w)).filter fun p => test p.chapter p.described).map (·.model)) =
        (OrderedSet.ofList Model.name
          ((run.filter fun p => test p.chapter p.described).map (·.model))).map (·.reworded w) := by
    intro test
    rw [← OrderedSet.ofList_map (fun _ => rfl : ∀ m : Model, (m.reworded w).name = m.name),
      List.filter_map, List.map_map, List.map_map]
    rfl
  have hdescribed := hplaced fun chapter described => chapter == name && described
  have hdrawn := hplaced fun chapter _ => chapter == name
  simp only [Chapter.after, Chapter.reworded, hdescribed, hdrawn]

variable (hw : KeepsLines w)
include hw

theorem facts_reworded (f : Field) (isForeignKey : Bool) :
    (f.reworded w).facts isForeignKey = f.facts isForeignKey := by
  have hformat := hw.values Tag.formatTag f.documentation
  simp only [Field.facts, Field.reworded, hformat]
  rfl

theorem boxLines_reworded (m : Model) : boxLines (m.reworded w) = boxLines m := by
  have hcolumns : (m.reworded w).columns.map (columnLine (m.reworded w)) =
      m.columns.map (columnLine m) := by
    rw [Model.columns_reworded, List.map_map]
    refine List.map_congr_left fun f _ => ?_
    rw [Function.comp_apply, columnLine, facts_reworded hw, Model.isForeignKey_reworded, columnLine]
  rw [boxLines, hcolumns]
  rfl

theorem ownerEnd_reworded (column : Field) (opposite : Option Field) :
    ownerEnd (column.reworded w) (opposite.map (·.reworded w)) = ownerEnd column opposite := by
  have hdemands : demandsItem (opposite.map (·.reworded w)) = demandsItem opposite := by
    cases opposite with
    | none => rfl
    | some f =>
      have hleast := hw.firstInt? Tag.minItemsTag f.documentation
      simp only [demandsItem, Option.map_some, Option.bind_some, Field.reworded, hleast]
  rw [ownerEnd, hdemands, ownerEnd]
  cases opposite <;> rfl

/-- A relation is drawn by the same line, in the same groups. -/
theorem relationLine?_reworded (group : OrderedSet Model.name) (owner : Model) (f : Field) :
    relationLine? (group.map (·.reworded w)) (owner.reworded w) (f.reworded w) =
      relationLine? group owner f := by
  have hgroup : (group.map (·.reworded w)).find? (f.reworded w).type =
      (group.find? f.type).map (·.reworded w) :=
    group.find?_map (fun _ => rfl : ∀ m : Model, (m.reworded w).name = m.name) f.type
  have hopposite : oppositeField? (group.map (·.reworded w)).toList (owner.reworded w)
      (f.reworded w) = (oppositeField? group.toList owner f).map (·.reworded w) :=
    oppositeField?_reworded group.toList owner f
  simp only [relationLine?, localColumn?_reworded, hgroup, hopposite, Option.bind_eq_bind,
    Option.bind_map, Function.comp_def, ownerEnd_reworded hw]
  rfl

theorem relationLines_reworded (group : OrderedSet Model.name) (m : Model) :
    relationLines (group.map (·.reworded w)) (m.reworded w) = relationLines group m := by
  rw [relationLines, Model.relations_reworded, List.filterMap_map, relationLines]
  exact List.filterMap_congr fun f _ => relationLine?_reworded hw group m f

theorem diagram_reworded (models : List Model) :
    diagram (models.map (·.reworded w)) = diagram models := by
  have hfault : diagramFault? (models.map (·.reworded w)) = diagramFault? models :=
    List.findSome?_map
  have hboxes : (models.map (·.reworded w)).flatMap boxLines = models.flatMap boxLines := by
    rw [List.flatMap_map]
    exact List.flatMap_congr fun m _ => boxLines_reworded hw m
  have hrelations : (models.map (·.reworded w)).flatMap
      (relationLines (modelIndex (models.map (·.reworded w)))) =
        models.flatMap (relationLines (modelIndex models)) := by
    rw [modelIndex_reworded, List.flatMap_map]
    exact List.flatMap_congr fun m _ => relationLines_reworded hw _ m
  rw [diagram, hfault, diagramLines, hboxes, hrelations]
  rfl

theorem describeField_reworded (f : Field) : describeField (f.reworded w) = describeField f := by
  have hprose := hw.proseLines f.documentation
  simp only [describeField, Field.reworded, hprose]
  rfl

theorem describeModel_reworded (m : Model) : describeModel (m.reworded w) = describeModel m := by
  have hcolumns : (m.reworded w).columns.map describeField = m.columns.map describeField := by
    rw [Model.columns_reworded, List.map_map]
    exact List.map_congr_left fun f _ => describeField_reworded hw f
  have hprose : prose (m.reworded w).documentation = prose m.documentation := by
    rw [prose, Model.reworded, hw.proseLines, prose]
  rw [describeModel, hcolumns, hprose]
  rfl

theorem visibleModels_reworded (models : List Model) :
    visibleModels (models.map (·.reworded w)) = (visibleModels models).map (·.reworded w) := by
  rw [visibleModels, List.filter_map, visibleModels]
  congr 2
  funext m
  exact congrArg not (hw.isSet Tag.hiddenTag m.documentation)

theorem prepareModels_reworded (models : List Model) :
    prepareModels (models.map (·.reworded w)) =
      (prepareModels models).map (List.map (·.reworded w)) := by
  have herrors : errorMessages (models.map (·.reworded w)) = errorMessages models := by
    rw [errorMessages, messagesOf, validate_reworded]
    rfl
  rw [prepareModels, herrors, visibleModels_reworded hw, withJoinTables_reworded hw, prepareModels]
  split <;> rfl

theorem placements_reworded (m : Model) :
    (m.reworded w).placements = m.placements.map (·.reworded w) := by
  have hkeys : ∀ tag, Tag.keys tag (m.reworded w).documentation = Tag.keys tag m.documentation :=
    fun tag => hw.keys tag m.documentation
  simp only [Model.placements, Model.describedIn, Model.groupingKeys, hkeys, List.map_append,
    List.map_map]
  rfl

/-- The book has the same chapters, each with the same models but for their wording. -/
theorem buildChapters_reworded (models : List Model) :
    (buildChapters (models.map (·.reworded w))).chapters =
      (buildChapters models).chapters.map (·.reworded w) := by
  have hrun : (visibleModels (models.map (·.reworded w))).flatMap Model.placements =
      ((visibleModels models).flatMap Model.placements).map (·.reworded w) := by
    rw [visibleModels_reworded hw, List.flatMap_map, List.map_flatMap]
    exact List.flatMap_congr fun m _ => placements_reworded hw m
  have hnames : ∀ run : List Placement,
      (run.map (·.reworded w)).map (·.chapter) = run.map (·.chapter) := fun _ => List.map_map
  rw [buildChapters_eq_after, buildChapters_eq_after, hrun, Book.after, hnames, Book.after,
    List.map_map]
  exact List.map_congr_left fun name _ => chapter_after_reworded _ name

theorem describedChapters_reworded (models : List Model) :
    (buildChapters (models.map (·.reworded w))).describedChapters =
      (buildChapters models).describedChapters.map (·.reworded w) := by
  rw [Book.describedChapters, buildChapters_reworded hw, List.filter_map, Book.describedChapters]
  congr 2
  funext c
  exact congrArg not List.isEmpty_map

theorem writeChapter_reworded (c : Chapter) : writeChapter (c.reworded w) = writeChapter c := by
  have hdiagram : diagram (c.reworded w).diagrams.toList = diagram c.diagrams.toList :=
    diagram_reworded hw c.diagrams.toList
  have hdescriptions : (c.reworded w).descriptions.toList.map describeModel =
      c.descriptions.toList.map describeModel := by
    change (c.descriptions.toList.map (·.reworded w)).map describeModel = _
    rw [List.map_map]
    exact List.map_congr_left fun m _ => describeModel_reworded hw m
  rw [writeChapter, hdiagram, hdescriptions]
  rfl

theorem writeBook_reworded (models : List Model) (config : Entries) :
    writeBook (models.map (·.reworded w)) config = writeBook models config := by
  have hwritten : ∀ chapters : List Chapter,
      (chapters.map (·.reworded w)).mapM writeChapter = chapters.mapM writeChapter := by
    intro chapters
    rw [List.mapM_map]
    congr 1
    funext c
    exact writeChapter_reworded hw c
  have hcontents : ∀ chapters : List Chapter,
      writeContents (chapters.map (·.reworded w)) = writeContents chapters := by
    intro chapters
    rw [writeContents, List.map_map]
    rfl
  simp only [writeBook, describedChapters_reworded hw, hwritten, hcontents, List.isEmpty_map]

/-- A document depends on documentation by its lines only. -/
theorem writeDocument_reworded (models : List Model) (config : Entries) :
    writeDocument (models.map (·.reworded w)) config = writeDocument models config := by
  rw [writeDocument, prepareModels_reworded hw, writeDocument]
  cases prepareModels models with
  | error fault => rfl
  | ok prepared =>
    exact congrArg (Except.mapError DocumentFault.label) (writeBook_reworded hw prepared config)

end Reworded

end SchemaBook
