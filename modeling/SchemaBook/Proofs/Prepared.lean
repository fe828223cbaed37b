import SchemaBook.Book.Document
import SchemaBook.Proofs.Doc.JoinChapters
import SchemaBook.Proofs.JoinTable.Completeness
import SchemaBook.Proofs.JoinTable.Idempotence
import SchemaBook.Proofs.JoinTable.Names
import SchemaBook.Proofs.Unambiguous

/-!
What preparation delivers. Names are checked before join tables are added, so the checks have to
hold of names that are made afterwards: of tables, which are free among the model names, and of list
fields, which are free in their model. Nothing makes a table's name free among the storage names.
Main statement: the prepared models are unambiguous exactly when no model is stored under the name
of an added table, and then preparing them again changes nothing.
-/

namespace SchemaBook

theorem Unambiguous.sublist {models others : List Model} (h : Unambiguous models)
    (hsub : others.Sublist models) : Unambiguous others where
  names := (hsub.map _).nodup h.names
  storageNames := (hsub.map _).nodup h.storageNames
  fieldNames := fun m hm => h.fieldNames m (hsub.subset hm)

theorem unambiguous_visibleModels {models : List Model} (h : Unambiguous models) :
    Unambiguous (visibleModels models) :=
  h.sublist List.filter_sublist

theorem map_storageName_joined (models : List Model) (joins : List JoinEnds) :
    (joined models joins).map (·.storageName) =
      models.map (·.storageName) ++ joins.map JoinEnds.table := by
  have hlinked : (linkedModels models joins).map (·.storageName) = models.map (·.storageName) := by
    apply List.ext_getElem?
    intro place
    simp [linkedModels, Option.map_map, Function.comp_def]
  have htables : (joinTablesAfter [] joins).map (·.storageName) =
      (joinTablesAfter [] joins).map (·.name) := by
    apply List.map_congr_left
    intro table htable
    obtain ⟨ends, -, prior, rfl⟩ := exists_of_mem_joinTablesAfter htable
    rfl
  rw [joined, List.map_append, hlinked, htables, map_name_joinTablesAfter]

/-- Of models with distinct storage names and their tables, two share a storage name only where a
model is stored under the name of a table. -/
theorem nodup_storageName_joined_iff {models : List Model}
    (h : (models.map (·.storageName)).Nodup) :
    ((joined models (plannedJoins models)).map (·.storageName)).Nodup ↔
      ∀ m ∈ models, m.storageName ∉ (plannedJoins models).map JoinEnds.table := by
  rw [map_storageName_joined, List.nodup_append]
  constructor
  · rintro ⟨-, -, hapart⟩ m hm htable
    exact hapart _ (List.mem_map_of_mem hm) _ htable rfl
  · intro hapart
    refine ⟨h, nodup_table_plannedJoins models, ?_⟩
    intro name hname table htable heq
    obtain ⟨m, hm, rfl⟩ := List.mem_map.1 hname
    exact hapart m hm (heq ▸ htable)

/-- With join tables, unambiguous models stay so exactly when none is stored under the name of a
table. -/
theorem unambiguous_joined_iff {models : List Model} (h : Unambiguous models) :
    Unambiguous (joined models (plannedJoins models)) ↔
      ∀ m ∈ models, m.storageName ∉ (plannedJoins models).map JoinEnds.table := by
  rw [← nodup_storageName_joined_iff h.storageNames]
  constructor
  · intro hjoined
    exact hjoined.storageNames
  · intro hstorage
    exact ⟨nodup_name_joined h.names, hstorage, nodup_fieldNames_joined _ h.fieldNames⟩

theorem isHidden_of_mem_visibleModels {models : List Model} {m : Model}
    (h : m ∈ visibleModels models) : m.isHidden = false := by
  simpa using (List.mem_filter.1 h).2

/-- Links keep no model out of the book, and a table is kept out only with one of its ends. -/
theorem isHidden_of_mem_joined {models : List Model} (h : ∀ m ∈ models, m.isHidden = false)
    {joins : List JoinEnds} (hjoins : ∀ ends ∈ joins, ends.Within models) :
    ∀ m ∈ joined models joins, m.isHidden = false := by
  intro m hm
  rcases List.mem_append.1 hm with hlinked | htable
  · obtain ⟨place, hplace, rfl⟩ := List.mem_mapIdx.1 hlinked
    exact h models[place] (List.getElem_mem hplace)
  · obtain ⟨ends, hends, prior, rfl⟩ := exists_of_mem_joinTablesAfter htable
    have hlesser := h _ (mem_of_firstNamed? (hjoins ends hends).lesser)
    have hgreater := h _ (mem_of_firstNamed? (hjoins ends hends).greater)
    exact isHidden_joinModel hlesser hgreater

/-- All models that join tables are added to in preparation are visible, and so are the tables. -/
theorem visibleModels_joined (models : List Model) :
    visibleModels (joined (visibleModels models) (plannedJoins (visibleModels models))) =
      joined (visibleModels models) (plannedJoins (visibleModels models)) := by
  have hgiven : ∀ m ∈ visibleModels models, m.isHidden = false := fun m hm =>
    isHidden_of_mem_visibleModels hm
  have hwithin : ∀ ends ∈ plannedJoins (visibleModels models),
      ends.Within (visibleModels models) := fun ends hends =>
    JoinEnds.within_of_mem_plannedJoins hends
  refine List.filter_eq_self.2 ?_
  intro m hm
  rw [isHidden_of_mem_joined hgiven hwithin m hm, Bool.not_false]

theorem prepareModels_eq_ok_iff {models out : List Model} :
    prepareModels models = .ok out ↔
      Unambiguous models ∧ withJoinTables (visibleModels models) = out := by
  rw [← errorMessages_eq_nil_iff]
  unfold prepareModels
  split
  · next hnone => simp [hnone]
  · next hsome =>
    constructor
    · intro h
      cases h
    · rintro ⟨hnone, -⟩
      exact (hsome hnone).elim

/-- Prepared models have distinct names, and so do the fields of each, those that are added
included. They have no errors exactly when no visible model is stored under the name of a table that
preparation adds, which comes behind the visible models; then, and only then, they can be prepared
again, and stay as they are. -/
theorem prepareModels_unambiguous_iff {models out : List Model}
    (h : prepareModels models = .ok out) :
    (out.map (·.name)).Nodup ∧
      (∀ m ∈ out, (m.fields.map (·.name)).Nodup) ∧
      (errorMessages out = [] ↔ ∀ m ∈ visibleModels models,
        ∀ table ∈ out.drop (visibleModels models).length, m.storageName ≠ table.name) ∧
      (prepareModels out = .ok out ↔ errorMessages out = []) := by
  obtain ⟨hgiven, hout⟩ := prepareModels_eq_ok_iff.1 h
  have hvisible := unambiguous_visibleModels hgiven
  rw [withJoinTables_eq_joined] at hout
  subst hout
  refine ⟨nodup_name_joined hvisible.names, nodup_fieldNames_joined _ hvisible.fieldNames, ?_, ?_⟩
  · rw [errorMessages_eq_nil_iff, unambiguous_joined_iff hvisible, joined,
      List.drop_left' (length_linkedModels _ _), ← map_name_joinTablesAfter []]
    simp only [List.mem_map, not_exists, not_and, ne_eq, eq_comm]
  · have hagain : withJoinTables (joined (visibleModels models)
        (plannedJoins (visibleModels models))) =
          joined (visibleModels models) (plannedJoins (visibleModels models)) := by
      rw [withJoinTables_eq_joined, plannedJoins_joined, joined_nil]
    rw [prepareModels_eq_ok_iff, visibleModels_joined, hagain, errorMessages_eq_nil_iff]
    exact and_iff_left rfl

def mutualPair : List Model := [modelListing "A" "B", modelListing "B" "A"]

/-- Two models that list each other, and one that is stored under the name of their table. -/
def mutualPairAndStore : List Model := mutualPair ++ [{ name := "Link", dbName := some "_AToB" }]

/-- Two models that list each other are prepared once and for all. -/
theorem mutualPair_prepared_again :
    prepareModels mutualPair = .ok (withJoinTables mutualPair) ∧
      prepareModels (withJoinTables mutualPair) = .ok (withJoinTables mutualPair) := by
  have hprepared : prepareModels mutualPair = .ok (withJoinTables mutualPair) :=
    prepareModels_eq_ok_iff.2 ⟨⟨by decide, by decide, by decide⟩, by decide⟩
  obtain ⟨-, -, herrors, hagain⟩ := prepareModels_unambiguous_iff hprepared
  exact ⟨hprepared, hagain.2 (herrors.2 (by decide))⟩

/-- Preparation may deliver models that share a storage name. -/
theorem not_all_prepared_unambiguous :
    ¬∀ models out : List Model, prepareModels models = .ok out → errorMessages out = [] := by
  intro hall
  have hprepared : prepareModels mutualPairAndStore = .ok (withJoinTables mutualPairAndStore) :=
    prepareModels_eq_ok_iff.2 ⟨⟨by decide, by decide, by decide⟩, by decide⟩
  have hnone := hall _ _ hprepared
  have hstorage := ((errorMessages_eq_nil_iff _).1 hnone).storageNames
  revert hstorage
  decide

end SchemaBook
