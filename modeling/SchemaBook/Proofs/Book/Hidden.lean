import SchemaBook.Proofs.Book.Writing
import SchemaBook.Proofs.Prepared

/-!
Hidden models. Validation sees them, and everything behind it sees the visible models alone; these
validate when the whole list does. What preparation delivers has no hidden model left, although the
documentation of a join table is made of words that may hold the flag's mark: a key that ends in the
mark would have hidden the model that it was cut from. Main statements: lists with the same visible
models have the same document, and no prepared model is hidden.
-/

namespace SchemaBook

theorem visibleModels_visibleModels (models : List Model) :
    visibleModels (visibleModels models) = visibleModels models := by
  apply List.filter_eq_self.2
  intro m hm
  rw [isHidden_of_mem_visibleModels hm, Bool.not_false]

theorem errorMessages_visibleModels {models : List Model} (h : errorMessages models = []) :
    errorMessages (visibleModels models) = [] := by
  rw [errorMessages_eq_nil_iff] at h ⊢
  exact unambiguous_visibleModels h

/-- The document of a list without errors is the book of its visible models and their tables. -/
theorem writeDocument_eq_writeBook {models : List Model} (h : errorMessages models = [])
    (config : Entries) :
    writeDocument models config =
      (writeBook (withJoinTables (visibleModels models)) config).mapError .label := by
  have hprepared : prepareModels models = .ok (withJoinTables (visibleModels models)) :=
    prepareModels_eq_ok_iff.2 ⟨(errorMessages_eq_nil_iff models).1 h, rfl⟩
  rw [writeDocument, hprepared]

/-- Two lists without errors that have the same visible models in the same order have the same
document under every configuration, the text or the fault; in particular a list has the document of
its visible models. Whether that is a text hangs on the visible models alone as well: it is one
exactly when every model that a described chapter draws has a storage name that can be a label. -/
theorem writeDocument_of_same_visibleModels {models others : List Model}
    (hmodels : errorMessages models = []) (hothers : errorMessages others = [])
    (hvisible : visibleModels models = visibleModels others) (config : Entries) :
    writeDocument models config = writeDocument others config ∧
      writeDocument models config = writeDocument (visibleModels models) config ∧
      ((∃ text, writeDocument models config = .ok text) ↔
        Drawable (buildChapters (withJoinTables (visibleModels models))).describedChapters) := by
  have hdocument := writeDocument_eq_writeBook hmodels config
  refine ⟨?_, ?_, ?_⟩
  · rw [hdocument, writeDocument_eq_writeBook hothers, hvisible]
  · rw [hdocument, writeDocument_eq_writeBook (errorMessages_visibleModels hmodels),
      visibleModels_visibleModels]
  · rw [hdocument]
    simp only [mapError_eq_ok_iff, exists_writeBook_ok_iff]

/-- A model that lists another one and a third, which is to stay out of the book. -/
def hostModel : Model where
  name := "Host"
  fields := [{ bareListTo "Guest" with name := "guests" },
    { bareListTo "Secret" with name := "secrets" }]

/-- The third model, which lists the first one. -/
def secretModel : Model :=
  { modelListing "Secret" "Host" with documentation := some "Not for print. @hidden" }

def hostAndGuest : List Model := [hostModel, modelListing "Guest" "Host"]

/-- With the hidden model in sight there would be a table between it and the first one, but none of
this is in the document. -/
theorem secretModel_leaves_no_trace :
    joinName "Host" "Secret" ∈ (withJoinTables (secretModel :: hostAndGuest)).map (·.name) ∧
      errorMessages (secretModel :: hostAndGuest) = [] ∧ errorMessages hostAndGuest = [] ∧
      ∀ config, writeDocument (secretModel :: hostAndGuest) config =
        writeDocument hostAndGuest config := by
  have hsecret : errorMessages (secretModel :: hostAndGuest) = [] :=
    (errorMessages_eq_nil_iff _).2 ⟨by decide, by decide, by decide⟩
  have hopen : errorMessages hostAndGuest = [] :=
    (errorMessages_eq_nil_iff _).2 ⟨by decide, by decide, by decide⟩
  refine ⟨by decide, hsecret, hopen, ?_⟩
  intro config
  exact (writeDocument_of_same_visibleModels hsecret hopen (by decide) config).1

/-- Prepared models are visible, join tables included. The documentation that a table is given has
the flag only if a grouping key of an end ends in the flag's mark, and then that end has the flag
itself; a key that holds the mark elsewhere does no harm. -/
theorem visibleModels_of_prepared {models out : List Model} (h : prepareModels models = .ok out) :
    visibleModels out = out ∧
      ∀ lesser greater : Model,
        (Tag.isSet Tag.hiddenTag (joinDocumentation lesser greater) = true ↔
          ∃ tag ∈ Tag.grouping, ∃ key, (key ∈ Tag.keys tag lesser.documentation ∨
            key ∈ Tag.keys tag greater.documentation) ∧ Tag.mark Tag.hiddenTag <:+ key) ∧
        (lesser.isHidden = false → greater.isHidden = false →
          Tag.isSet Tag.hiddenTag (joinDocumentation lesser greater) = false) := by
  constructor
  · obtain ⟨-, hout⟩ := prepareModels_eq_ok_iff.1 h
    rw [← hout, withJoinTables_eq_joined]
    exact visibleModels_joined models
  · intro lesser greater
    refine ⟨isSet_hidden_joinDocumentation_iff lesser greater, ?_⟩
    intro hlesser hgreater
    exact isHidden_joinModel hlesser hgreater

/-- Two models that list each other, with the mark of the flag inside their keys. -/
def nearlyHiddenPair : List Model :=
  [{ modelListing "A" "B" with documentation := some "@namespace a@hidden@ @hiddenly" },
    { modelListing "B" "A" with documentation := some "@erd @hidden-rooms" }]

/-- The table between them has both keys, and is visible. -/
theorem nearlyHiddenPair_visible :
    prepareModels nearlyHiddenPair = .ok (withJoinTables nearlyHiddenPair) ∧
      (withJoinTables nearlyHiddenPair).getLast?.bind (·.documentation) =
        some ("@namespace a@hidden@\n@erd @hidden-rooms" : Text) ∧
      visibleModels (withJoinTables nearlyHiddenPair) = withJoinTables nearlyHiddenPair := by
  have hprepared : prepareModels nearlyHiddenPair = .ok (withJoinTables nearlyHiddenPair) :=
    prepareModels_eq_ok_iff.2 ⟨⟨by decide, by decide, by decide⟩, by decide⟩
  exact ⟨hprepared, by decide, (visibleModels_of_prepared hprepared).1⟩

end SchemaBook
