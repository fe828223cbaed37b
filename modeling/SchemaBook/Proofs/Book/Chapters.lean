import Mathlib.Tactic
import SchemaBook.Book.Chapter

/-!
Where models stand in a book. A book is built by a run of placements, each of which puts one model
into one chapter, to be described there or only to be drawn. What a run leaves behind is a function
of its placements; that is shown for one placement and from there for all. Main statement: the
chapters are the places of the visible models in order of first mention, and each holds the models
that have it among their places, the first of each name.
-/

namespace SchemaBook

namespace Model

/-- The chapters that the grouping tags of a model name, tag by tag. -/
def groupingKeys (m : Model) : List Text :=
  Tag.keys Tag.namespaceTag m.documentation ++ Tag.keys Tag.describeTag m.documentation ++
    Tag.keys Tag.erdTag m.documentation

/-- The chapters that a model stands in: those that its grouping tags name, or the one for models
without such tags. -/
def places (m : Model) : List Text :=
  if m.groupingKeys = [] then [Book.defaultChapter] else m.groupingKeys

/-- The chapters that a model is described in. -/
def describedIn (m : Model) : List Text :=
  if m.groupingKeys = [] then [Book.defaultChapter]
  else Tag.keys Tag.namespaceTag m.documentation ++ Tag.keys Tag.describeTag m.documentation

end Model

/-- The models of a list, the first of each name. -/
def firstOfEachName (models : List Model) : List Model :=
  models.eraseDupsBy fun m other => m.name == other.name

/-- One step in building a book: a model comes into a chapter, to be described there or only to be
drawn. -/
structure Placement where
  chapter : Text
  model : Model
  described : Bool

def Placement.enter (p : Placement) : Chapter → Chapter :=
  if p.described then Chapter.describe p.model else Chapter.draw p.model

def Model.placements (m : Model) : List Placement :=
  m.describedIn.map (⟨·, m, true⟩) ++ (Tag.keys Tag.erdTag m.documentation).map (⟨·, m, false⟩)

/-- The chapter of a name after a run of placements. -/
def Chapter.after (run : List Placement) (name : Text) : Chapter where
  name
  descriptions := .ofList _ ((run.filter fun p => p.chapter == name && p.described).map (·.model))
  diagrams := .ofList _ ((run.filter fun p => p.chapter == name).map (·.model))

/-- The book after a run of placements. -/
def Book.after (run : List Placement) : Book :=
  ⟨(firstOccurrences (run.map (·.chapter))).map (Chapter.after run)⟩

/-- The book that has the chapters of the names, filled by a run of placements. -/
def Book.filled (names : List Text) (run : List Placement) : Book :=
  ⟨(firstOccurrences names).map (Chapter.after run)⟩

def Book.place (b : Book) (p : Placement) : Book := b.change p.chapter p.enter

namespace Chapter

theorem after_of_notMem {run : List Placement} {name : Text} (h : name ∉ run.map (·.chapter)) :
    Chapter.after run name = Chapter.empty name := by
  have hne : ∀ p ∈ run, p.chapter ≠ name := by
    intro p hp heq
    exact h (heq ▸ List.mem_map_of_mem hp)
  have hdrawn : (run.filter fun p => p.chapter == name) = [] :=
    List.filter_eq_nil_iff.2 fun p hp => by simpa using hne p hp
  have hdescribed : (run.filter fun p => p.chapter == name && p.described) = [] :=
    List.filter_eq_nil_iff.2 fun p hp => by simp [hne p hp]
  rw [Chapter.after, hdrawn, hdescribed]
  rfl

/-- A placement changes its own chapter and no other. -/
theorem after_concat (run : List Placement) (p : Placement) (name : Text) :
    Chapter.after (run ++ [p]) name =
      if name = p.chapter then p.enter (Chapter.after run name) else Chapter.after run name := by
  by_cases hname : name = p.chapter
  · subst hname
    cases hdescribed : p.described <;>
      simp [Chapter.after, Placement.enter, Chapter.describe, Chapter.draw, hdescribed,
        OrderedSet.ofList_concat]
  · have hne : p.chapter ≠ name := fun heq => hname heq.symm
    simp [Chapter.after, hname, hne]

end Chapter

namespace Book

theorem find?_isSome {b : Book} {name : Text} :
    (b.find? name).isSome ↔ name ∈ b.chapters.map (·.name) := by
  simp [Book.find?, List.find?_isSome]

theorem names_filled (names : List Text) (run : List Placement) :
    (Book.filled names run).chapters.map (·.name) = firstOccurrences names := by
  rw [Book.filled, List.map_map]
  exact List.map_id _

section Filled

variable {names : List Text} {run : List Placement}

theorem take_filled (hrun : run.map (·.chapter) ⊆ names) (name : Text) :
    (Book.filled names run).take name = Book.filled (names ++ [name]) run := by
  have hfind : ((Book.filled names run).find? name).isSome ↔ name ∈ names := by
    rw [find?_isSome, names_filled, mem_firstOccurrences]
  rw [Book.take]
  by_cases hname : name ∈ names
  · rw [if_pos (hfind.2 hname), Book.filled, Book.filled, firstOccurrences_concat, if_pos hname]
  · rw [if_neg (mt hfind.1 hname), Book.filled, Book.filled, firstOccurrences_concat, if_neg hname,
      List.map_append, List.map_singleton, Chapter.after_of_notMem fun hmem => hname (hrun hmem)]

/-- One placement more leads to the book that is filled by the longer run. -/
theorem place_filled (hrun : run.map (·.chapter) ⊆ names) (p : Placement) :
    (Book.filled names run).place p = Book.filled (names ++ [p.chapter]) (run ++ [p]) := by
  rw [Book.place, Book.change, take_filled hrun, Book.filled, Book.filled, List.map_map]
  congr 2
  funext name
  rw [Chapter.after_concat]
  rfl

theorem foldl_place_filled (hrun : run.map (·.chapter) ⊆ names) (others : List Placement) :
    others.foldl Book.place (Book.filled names run) =
      Book.filled (names ++ others.map (·.chapter)) (run ++ others) := by
  induction others generalizing names run with
  | nil => simp
  | cons p rest ih =>
    have hnext : (run ++ [p]).map (·.chapter) ⊆ names ++ [p.chapter] := by
      rw [List.map_append, List.append_subset]
      exact ⟨List.Subset.trans hrun (List.subset_append_left _ _), List.subset_append_right _ _⟩
    rw [List.foldl_cons, place_filled hrun, ih hnext, List.append_assoc, List.append_assoc]
    rfl

end Filled

/-- To add a model is to make its placements. -/
theorem add_eq_foldl_place (b : Book) (m : Model) : b.add m = m.placements.foldl Book.place b := by
  rw [Model.placements, List.foldl_append, List.foldl_map, List.foldl_map, Model.describedIn,
    Model.groupingKeys]
  unfold Book.add
  dsimp only
  split
  · next hnone =>
    obtain ⟨hdescribed, hdrawn⟩ := Bool.and_eq_true_iff.1 hnone
    rw [List.isEmpty_iff] at hdescribed hdrawn
    rw [hdescribed, hdrawn]
    rfl
  · next hsome =>
    rw [if_neg]
    · rfl
    · intro hnil
      obtain ⟨hdescribed, hdrawn⟩ := List.append_eq_nil_iff.1 hnil
      rw [hdescribed, hdrawn] at hsome
      exact hsome rfl

end Book

theorem buildChapters_eq_after (models : List Model) :
    buildChapters models = Book.after ((visibleModels models).flatMap Model.placements) := by
  have hrun : ∀ shown : List Model, shown.foldl Book.add .empty =
      (shown.flatMap Model.placements).foldl Book.place .empty := by
    intro shown
    rw [List.foldl_flatMap]
    congr 1
    funext b m
    exact b.add_eq_foldl_place m
  have hnone : ([] : List Placement).map (·.chapter) ⊆ [] := List.Subset.refl _
  have hfilled := Book.foldl_place_filled hnone ((visibleModels models).flatMap Model.placements)
  exact (hrun (visibleModels models)).trans hfilled

namespace Model

theorem places_eq (m : Model) :
    m.places = m.describedIn ++ Tag.keys Tag.erdTag m.documentation := by
  unfold places describedIn
  split
  · next hnone =>
    rw [(List.append_eq_nil_iff.1 hnone).2]
    rfl
  · rfl

theorem map_chapter_placements (m : Model) : m.placements.map (·.chapter) = m.places := by
  simp [placements, places_eq, Function.comp_def]

theorem model_of_mem_placements {m : Model} {p : Placement} (h : p ∈ m.placements) :
    p.model = m := by
  simp only [placements, List.mem_append, List.mem_map] at h
  rcases h with ⟨_, _, rfl⟩ | ⟨_, _, rfl⟩ <;> rfl

theorem any_placements_chapter (m : Model) (name : Text) :
    (m.placements.any fun p => p.chapter == name) = decide (name ∈ m.places) := by
  rw [← map_chapter_placements, Bool.eq_iff_iff]
  simp

theorem any_placements_described (m : Model) (name : Text) :
    (m.placements.any fun p => p.chapter == name && p.described) =
      decide (name ∈ m.describedIn) := by
  rw [Bool.eq_iff_iff]
  simp [placements, List.any_append, List.any_map]

end Model

/-- However many of its placements pass a test, a model is there once, as the first of its name. -/
theorem ofList_placements (models : List Model) (test : Placement → Bool) :
    OrderedSet.ofList Model.name
        (((models.flatMap Model.placements).filter test).map (·.model)) =
      OrderedSet.ofList Model.name (models.filter fun m => m.placements.any test) := by
  rw [List.filter_flatMap, List.map_flatMap, OrderedSet.ofList_flatMap]
  · congr 2
    funext m
    rw [Bool.eq_iff_iff]
    simp
  · intro m _ other hother
    obtain ⟨p, hp, rfl⟩ := List.mem_map.1 hother
    exact Model.model_of_mem_placements (List.mem_filter.1 hp).1

theorem Chapter.diagrams_after (models : List Model) (name : Text) :
    (Chapter.after (models.flatMap Model.placements) name).diagrams.toList =
      firstOfEachName (models.filter fun m => name ∈ m.places) := by
  simp only [Chapter.after, ofList_placements, OrderedSet.toList_ofList,
    Model.any_placements_chapter, firstOfEachName]

theorem Chapter.descriptions_after (models : List Model) (name : Text) :
    (Chapter.after (models.flatMap Model.placements) name).descriptions.toList =
      firstOfEachName (models.filter fun m => name ∈ m.describedIn) := by
  simp only [Chapter.after, ofList_placements, OrderedSet.toList_ofList,
    Model.any_placements_described, firstOfEachName]

theorem names_buildChapters (models : List Model) :
    (buildChapters models).chapters.map (·.name) =
      ((visibleModels models).flatMap Model.places).eraseDups := by
  have hplaces : ((visibleModels models).flatMap Model.placements).map (·.chapter) =
      (visibleModels models).flatMap Model.places := by
    rw [List.map_flatMap]
    congr 1
    funext m
    exact m.map_chapter_placements
  rw [buildChapters_eq_after, Book.after, ← Book.filled, Book.names_filled, hplaces,
    firstOccurrences_eq_eraseDups]

theorem models_of_mem_chapters {models : List Model} {c : Chapter}
    (h : c ∈ (buildChapters models).chapters) :
    c.diagrams.toList =
        firstOfEachName ((visibleModels models).filter fun m => c.name ∈ m.places) ∧
      c.descriptions.toList =
        firstOfEachName ((visibleModels models).filter fun m => c.name ∈ m.describedIn) := by
  rw [buildChapters_eq_after] at h
  obtain ⟨name, -, rfl⟩ := List.mem_map.1 h
  exact ⟨Chapter.diagrams_after _ name, Chapter.descriptions_after _ name⟩

theorem firstOfEachName_eq_nil_iff {models : List Model} :
    firstOfEachName models = [] ↔ models = [] := by
  cases models with
  | nil => simp [firstOfEachName]
  | cons m rest => simp [firstOfEachName, List.eraseDupsBy_cons]

theorem firstOfEachName_of_nodup {models : List Model} (h : (models.map (·.name)).Nodup) :
    firstOfEachName models = models := by
  rw [firstOfEachName, ← OrderedSet.toList_ofList, OrderedSet.toList_ofList_of_nodup h]

/-- Where names are distinct, no model takes the place of another. -/
theorem diagrams_of_nodup {models : List Model} (hnames : (models.map (·.name)).Nodup) {c : Chapter}
    (h : c ∈ (buildChapters models).chapters) :
    c.diagrams.toList = (visibleModels models).filter fun m => c.name ∈ m.places := by
  have hplaced : ((visibleModels models).filter fun m => c.name ∈ m.places).Sublist models :=
    List.filter_sublist.trans List.filter_sublist
  rw [(models_of_mem_chapters h).1, firstOfEachName_of_nodup ((hplaced.map _).nodup hnames)]

theorem diagrams_sublist {models : List Model} (hnames : (models.map (·.name)).Nodup) {c : Chapter}
    (h : c ∈ (buildChapters models).chapters) : c.diagrams.toList.Sublist models := by
  rw [diagrams_of_nodup hnames h]
  exact List.filter_sublist.trans List.filter_sublist

theorem mem_diagrams_iff {models : List Model} (hnames : (models.map (·.name)).Nodup) {c : Chapter}
    (h : c ∈ (buildChapters models).chapters) {m : Model} :
    m ∈ c.diagrams.toList ↔ m ∈ visibleModels models ∧ c.name ∈ m.places := by
  rw [diagrams_of_nodup hnames h, List.mem_filter, decide_eq_true_iff]

theorem exists_chapter {models : List Model} {m : Model} (hm : m ∈ visibleModels models)
    {name : Text} (h : name ∈ m.places) :
    ∃ c ∈ (buildChapters models).chapters, c.name = name := by
  rw [← List.mem_map, names_buildChapters, List.mem_eraseDups]
  exact List.mem_flatMap.2 ⟨m, hm, h⟩

/-- The models of a list whose documentation does not set the tag that hides them. -/
def withoutHidden (models : List Model) : List Model :=
  models.filter fun m => Tag.isSet Tag.hiddenTag m.documentation = false

theorem visibleModels_eq_withoutHidden (models : List Model) :
    visibleModels models = withoutHidden models := by
  unfold visibleModels withoutHidden Model.isHidden
  apply List.filter_congr
  intro m _
  cases Tag.isSet Tag.hiddenTag m.documentation <;> rfl

/-- The book of a list of models, part by part. The chapters are the places of the models that are
not hidden, in order of first mention. A chapter draws those of these models that have it among
their places and describes those that are described in it, in the order of the list and of models
with one name the first. The described chapters are those that describe some model that is not
hidden, in the order of all chapters. -/
theorem buildChapters_follows_places (models : List Model) :
    (buildChapters models).chapters.map (·.name) =
        ((withoutHidden models).flatMap Model.places).eraseDups ∧
      (∀ c ∈ (buildChapters models).chapters,
        c.diagrams.toList =
            firstOfEachName ((withoutHidden models).filter fun m => c.name ∈ m.places) ∧
          c.descriptions.toList =
            firstOfEachName ((withoutHidden models).filter fun m => c.name ∈ m.describedIn)) ∧
      (buildChapters models).describedChapters =
        (buildChapters models).chapters.filter fun c =>
          (withoutHidden models).any fun m => c.name ∈ m.describedIn := by
  rw [← visibleModels_eq_withoutHidden]
  refine ⟨names_buildChapters models, fun c hc => models_of_mem_chapters hc, ?_⟩
  apply List.filter_congr
  intro c hc
  rw [OrderedSet.isEmpty, (models_of_mem_chapters hc).2, Bool.eq_iff_iff]
  simp [firstOfEachName_eq_nil_iff]

/-- A hidden model opens no chapter, and has no place in one that others open. -/
example :
    (buildChapters [
      { name := "Audit", documentation := some "@hidden\n@namespace audit\n@erd billing" },
      { name := "Invoice", documentation := some "@namespace billing\n@erd ledger" }]).chapters.map
        (fun c => (c.name, c.diagrams.toList.map (·.name), c.descriptions.toList.map (·.name))) =
      ([("billing", ["Invoice"], ["Invoice"]), ("ledger", ["Invoice"], [])] :
        List (Text × List Text × List Text)) := by
  decide

end SchemaBook
