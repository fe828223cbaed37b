import SchemaBook.Proofs.Book.Hidden
import SchemaBook.Proofs.Diagram.JoinTables

/-!
Why a document cannot be written. Integers in documentation and native types count as absent where
they cannot be read, and the feet of a relationship line are known ones, so a list of models that
validates has only its labels to fail on. Main statement: apart from the errors of validation, a
document fails exactly where a storage name that is drawn holds a decimal reference with more digits
than a number may have.
-/

namespace SchemaBook

open Mermaid

theorem Text.Reference.excess?_eq_some_iff {reference : Reference} {count : Nat} :
    reference.excess? = some count ↔
      ∃ digits, reference = .decimal digits ∧ digitLimit < digits.length ∧
        count = digits.length := by
  cases reference with
  | decimal digits =>
    rw [excess?]
    rcases Nat.lt_or_ge digitLimit digits.length with hlong | hshort
    · simp [Nat.not_le.2 hlong, hlong, eq_comm]
    · simp [hshort, Nat.not_lt.2 hshort]
  | plain | hexadecimal | named => simp [excess?]

/-- A decimal reference of a text with more digits than a number may have. -/
def Text.HoldsLong (text : Text) (digits : Text) : Prop :=
  Reference.decimal digits ∈ references text ∧ digitLimit < digits.length

theorem exists_of_labelFault? {text : Text} {fault : LabelFault}
    (h : labelFault? text = some fault) :
    ∃ digits, Text.HoldsLong text digits ∧ fault = ⟨digits.length⟩ := by
  obtain ⟨count, hcount, rfl⟩ := Option.map_eq_some_iff.1 h
  obtain ⟨reference, hmem, hexcess⟩ := List.exists_of_findSome?_eq_some hcount
  obtain ⟨digits, rfl, hlong, rfl⟩ := Text.Reference.excess?_eq_some_iff.1 hexcess
  exact ⟨digits, ⟨hmem, hlong⟩, rfl⟩

theorem labelFault?_eq_none_iff {text : Text} :
    labelFault? text = none ↔ ∀ digits, ¬Text.HoldsLong text digits := by
  constructor
  · rintro h digits ⟨hmem, hlong⟩
    rw [labelFault?, Option.map_eq_none_iff, Text.excessDigits?, List.findSome?_eq_none_iff] at h
    have hexcess := Text.Reference.excess?_eq_some_iff.2 ⟨digits, rfl, hlong, rfl⟩
    rw [h _ hmem] at hexcess
    cases hexcess
  · intro h
    by_contra hne
    obtain ⟨fault, hfault⟩ := Option.ne_none_iff_exists'.1 hne
    obtain ⟨digits, hholds, -⟩ := exists_of_labelFault? hfault
    exact h digits hholds

theorem exists_of_diagram_eq_error {models : List Model} {fault : LabelFault}
    (h : diagram models = .error fault) : ∃ m ∈ models, labelFault? m.storageName = some fault := by
  unfold diagram at h
  split at h
  case h_1 other hother =>
    cases h
    exact List.exists_of_findSome?_eq_some hother
  case h_2 => cases h

/-- Only the diagram of a chapter keeps a book from being written. -/
theorem exists_of_writeBook_eq_error {models : List Model} {config : Entries} {fault : LabelFault}
    (h : writeBook models config = .error fault) :
    ∃ c ∈ (buildChapters models).describedChapters, ∃ m ∈ c.diagrams.toList,
      labelFault? m.storageName = some fault := by
  rcases bind_eq_error_iff.1 h with hchapters | ⟨written, -, hdone⟩
  · obtain ⟨c, hc, hchapter⟩ := exists_of_mapM_eq_error hchapters
    rcases bind_eq_error_iff.1 hchapter with hdiagram | ⟨source, -, hdone⟩
    · exact ⟨c, hc, exists_of_diagram_eq_error hdiagram⟩
    · cases hdone
  · cases hdone

/-- The feet of a relationship line are known ones, so only its two labels can be at fault. -/
theorem relationship_eq (source target name : Text) (left right : Multiplicity) :
    relationship source left.leftText target right.rightText name =
      ((labelFault? source).or (labelFault? target)).elim
        (.ok (relationshipLine source left target right name)) fun fault =>
          .error (.label fault) := by
  simp only [relationship, Multiplicity.ofLeft?_leftText, Multiplicity.ofRight?_rightText]
  cases (labelFault? source).or (labelFault? target) <;> rfl

/-- What a diagram writes for a relation is what the two ends and the feet between them give. -/
theorem relationship_of_relationLine? {group : OrderedSet Model.name} {owner : Model}
    {field : Field} {line : Text} (h : relationLine? group owner field = some line) :
    ∃ column opposite target,
      relationship owner.storageName (ownerEnd column opposite).leftText target.storageName
        (targetEnd owner target).rightText field.name =
        ((labelFault? owner.storageName).or (labelFault? target.storageName)).elim (.ok line)
          fun fault => .error (.label fault) := by
  unfold relationLine? at h
  simp only [Option.bind_eq_bind, Option.bind_eq_some_iff] at h
  obtain ⟨name, -, column, -, target, -, hline⟩ := h
  refine ⟨column, oppositeField? group.toList owner field, target, ?_⟩
  rw [relationship_eq, ← Option.some.inj hline]

/-- The document of a list is a text unless validation reports errors, and these are the message of
its fault. -/
structure FailsOnErrorsOnly (models : List Model) (config : Entries) : Prop where
  ambiguous : errorMessages models ≠ [] →
    ∃ fault, writeDocument models config = .error fault ∧
      fault.message = "invalid schema: " ++ Text.join "; " (errorMessages models)
  written : errorMessages models = [] → ∃ text, writeDocument models config = .ok text

/-- The models that the document of a list draws. -/
def drawnModels (models : List Model) : List Model :=
  (buildChapters (withJoinTables (visibleModels models))).describedChapters.flatMap
    (·.diagrams.toList)

theorem drawable_iff {models : List Model} :
    Drawable (buildChapters (withJoinTables (visibleModels models))).describedChapters ↔
      ∀ m ∈ drawnModels models, ∀ digits, ¬Text.HoldsLong m.storageName digits := by
  simp only [drawnModels, List.forall_mem_flatMap, ← labelFault?_eq_none_iff, Drawable]

theorem writeDocument_of_errors {models : List Model} (h : errorMessages models ≠ [])
    (config : Entries) :
    writeDocument models config = .error (.ambiguous (errorMessages models)) := by
  rw [writeDocument, prepareModels]
  cases herrors : errorMessages models with
  | nil => exact absurd herrors h
  | cons first others => rfl

theorem exists_of_writeDocument_eq_error {models : List Model} {config : Entries}
    {fault : DocumentFault} (hgiven : errorMessages models = [])
    (h : writeDocument models config = .error fault) :
    ∃ m ∈ drawnModels models, ∃ digits, Text.HoldsLong m.storageName digits ∧
      fault = .label ⟨digits.length⟩ := by
  rw [writeDocument_eq_writeBook hgiven] at h
  rcases hbook : writeBook (withJoinTables (visibleModels models)) config with other | text
  · rw [hbook] at h
    cases h
    obtain ⟨c, hc, m, hm, hlabel⟩ := exists_of_writeBook_eq_error hbook
    obtain ⟨digits, hholds, rfl⟩ := exists_of_labelFault? hlabel
    exact ⟨m, List.mem_flatMap.2 ⟨c, hc, hm⟩, digits, hholds, rfl⟩
  · rw [hbook] at h
    cases h

/-- The document of a list fails on errors of validation only, unless a storage name that it draws
holds a decimal reference with more digits than a number may have. With errors these are the fault.
Without errors the fault is one of those references; the feet of a relationship line are never at
fault, and integers that cannot be read are left out. -/
theorem writeDocument_fails_iff (models : List Model) (config : Entries) :
    (FailsOnErrorsOnly models config ↔ (errorMessages models = [] →
        ∀ m ∈ drawnModels models, ∀ digits, ¬Text.HoldsLong m.storageName digits)) ∧
      (errorMessages models ≠ [] →
        writeDocument models config = .error (.ambiguous (errorMessages models))) ∧
      (errorMessages models = [] → ∀ fault, writeDocument models config = .error fault →
        ∃ m ∈ drawnModels models, ∃ digits, Text.HoldsLong m.storageName digits ∧
          fault = .label ⟨digits.length⟩) ∧
      ∀ (group : OrderedSet Model.name) (owner : Model) (field : Field) (line : Text),
        relationLine? group owner field = some line → ∃ column opposite target,
          relationship owner.storageName (ownerEnd column opposite).leftText target.storageName
            (targetEnd owner target).rightText field.name =
            ((labelFault? owner.storageName).or (labelFault? target.storageName)).elim (.ok line)
              fun fault => .error (.label fault) := by
  have hwritten : errorMessages models = [] →
      ((∃ text, writeDocument models config = .ok text) ↔
        ∀ m ∈ drawnModels models, ∀ digits, ¬Text.HoldsLong m.storageName digits) := by
    intro hgiven
    rw [writeDocument_eq_writeBook hgiven, ← drawable_iff]
    simp only [mapError_eq_ok_iff, exists_writeBook_ok_iff]
  refine ⟨⟨?_, ?_⟩, fun herrors => writeDocument_of_errors herrors config,
    fun hgiven _ hfault => exists_of_writeDocument_eq_error hgiven hfault,
    fun _ _ _ _ hline => relationship_of_relationLine? hline⟩
  · intro h hgiven
    exact (hwritten hgiven).1 (h.written hgiven)
  · intro h
    constructor
    case ambiguous =>
      intro herrors
      exact ⟨_, writeDocument_of_errors herrors config, rfl⟩
    case written =>
      intro hgiven
      exact (hwritten hgiven).2 (h hgiven)

/-- A storage name is a label only where its references can be read, which validation does not look
at. -/
theorem not_all_failsOnErrorsOnly :
    ¬∀ (models : List Model) (config : Entries), FailsOnErrorsOnly models config := by
  intro h
  have hgiven : errorMessages [endlessModel] = [] :=
    (errorMessages_eq_nil_iff _).2 ⟨by decide, by decide, by decide⟩
  have hvisible : visibleModels [endlessModel] = [endlessModel] :=
    List.filter_eq_self.2 (by decide)
  have htext := (h [endlessModel] []).written hgiven
  rw [writeDocument_eq_writeBook hgiven, hvisible] at htext
  simp only [mapError_eq_ok_iff, exists_writeBook_ok_iff] at htext
  have hchapters : ∃ c ∈ (buildChapters (withJoinTables [endlessModel])).describedChapters,
      endlessModel ∈ c.diagrams.toList :=
    ⟨(Chapter.empty Book.defaultChapter).describe endlessModel, List.mem_of_getElem? (i := 0) rfl,
      List.mem_of_getElem? (i := 0) rfl⟩
  obtain ⟨c, hc, hmember⟩ := hchapters
  exact labelFault?_endlessReference (htext c hc endlessModel hmember)

end SchemaBook
