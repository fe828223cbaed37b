import Mathlib.Data.List.Find
import SchemaBook.Proofs.JoinTable.Completeness

/-!
Join tables and the order of models. A scan in another order meets the pairs in another order and
builds a table when its ends have other links. With distinct model names neither matters much: the
pairs are the same, each with its ends in the order of their names. Main statement: the names of the
added tables do not depend on the order of the models, and a table whose name is that of one pair
only depends on it in the key columns of its ends at most.
-/

namespace SchemaBook

/-- The tables that making all join tables explicit puts behind the models. -/
def addedTables (models : List Model) : List Model := (withJoinTables models).drop models.length

/-- The model names give a table name for one pair only, in either order of the two. -/
def NamesOnePair (models : List Model) (table : Text) : Prop :=
  ∀ a ∈ models.map (·.name), ∀ b ∈ models.map (·.name),
    ∀ c ∈ models.map (·.name), ∀ d ∈ models.map (·.name),
      joinName a b = table → joinName c d = table → a = c ∧ b = d ∨ a = d ∧ b = c

instance (models : List Model) (table : Text) : Decidable (NamesOnePair models table) :=
  inferInstanceAs (Decidable (∀ a ∈ models.map (·.name), ∀ b ∈ models.map (·.name),
    ∀ c ∈ models.map (·.name), ∀ d ∈ models.map (·.name),
      joinName a b = table → joinName c d = table → a = c ∧ b = d ∨ a = d ∧ b = c))

/-- Two tables that agree in all but the types of their columns and the key columns they refer to.
A key column may be a list field that an end has gained, so it hangs on the order of the scan. -/
structure AgreeButForKeys (table other : Model) : Prop where
  documentation : table.documentation = other.documentation
  fields : table.fields.map (fun f => (f.name, f.kind, f.relationName, f.localColumns)) =
    other.fields.map fun f => (f.name, f.kind, f.relationName, f.localColumns)
  targets : table.relations.map (fun r => (r.name, r.type)) =
    other.relations.map fun r => (r.name, r.type)
  uniqueIndexes : table.uniqueIndexes = other.uniqueIndexes

section Permutation

variable {models others : List Model}

/-- Where names are distinct, a name leads to the same model in every order. -/
theorem firstNamed?_of_perm (hnames : (models.map (·.name)).Nodup) (hperm : models.Perm others)
    (name : Text) : firstNamed? models name = firstNamed? others name := by
  apply List.find?_eq_find?_of_perm hperm
  rintro m ⟨hm, hmName⟩ other ⟨hother, hotherName⟩
  have hsame : m.name = other.name := (beq_iff_eq.1 hmName).trans (beq_iff_eq.1 hotherName).symm
  exact List.inj_on_of_nodup_map hnames hm hother hsame

theorem joinEnds?_of_perm (hnames : (models.map (·.name)).Nodup) (hperm : models.Perm others) :
    joinEnds? models = joinEnds? others := by
  funext owner field
  simp only [joinEnds?, firstNamed?_of_perm hnames hperm]

theorem manyToMany_of_perm (hnames : (models.map (·.name)).Nodup) (hperm : models.Perm others) :
    (manyToMany models).Perm (manyToMany others) := by
  unfold manyToMany
  rw [joinEnds?_of_perm hnames hperm]
  exact hperm.flatMap_right _

/-- The plans of two orders name the same tables, each once. -/
theorem map_table_plannedJoins_of_perm (hnames : (models.map (·.name)).Nodup)
    (hperm : models.Perm others) :
    ((plannedJoins models).map JoinEnds.table).Perm
      ((plannedJoins others).map JoinEnds.table) := by
  have hpairs := (manyToMany_of_perm hnames hperm).map JoinEnds.table
  have hgiven := hperm.map (·.name)
  apply (List.perm_ext_iff_of_nodup (nodup_table_plannedJoins models)
    (nodup_table_plannedJoins others)).2
  intro name
  simp only [map_table_plannedJoins, mem_firstOccurrences, List.mem_filter, Bool.not_eq_true',
    List.contains_eq_mem, decide_eq_false_iff_not, hpairs.mem_iff, hgiven.mem_iff]

theorem within_of_perm (hnames : (models.map (·.name)).Nodup) (hperm : models.Perm others)
    {ends : JoinEnds} (h : ends.Within others) : ends.Within models where
  lesser := (firstNamed?_of_perm hnames hperm _).trans h.lesser
  greater := (firstNamed?_of_perm hnames hperm _).trans h.greater

end Permutation

theorem map_name_addedTables (models : List Model) :
    (addedTables models).map (·.name) = (plannedJoins models).map JoinEnds.table := by
  rw [addedTables, drop_withJoinTables, map_name_joinTablesAfter]

theorem exists_of_mem_addedTables {models : List Model} {table : Model}
    (h : table ∈ addedTables models) :
    ∃ ends ∈ plannedJoins models, ∃ prior, table = ends.tableAfter prior := by
  rw [addedTables, drop_withJoinTables] at h
  exact exists_of_mem_joinTablesAfter h

theorem JoinEnds.Within.names_mem {models : List Model} {ends : JoinEnds} (h : ends.Within models) :
    ends.lesser.name ∈ models.map (·.name) ∧ ends.greater.name ∈ models.map (·.name) :=
  ⟨List.mem_map_of_mem (mem_of_firstNamed? h.lesser),
    List.mem_map_of_mem (mem_of_firstNamed? h.greater)⟩

/-- Ends are ordered by name, so of one pair of names there is one pair of ends. -/
theorem JoinEnds.eq_of_namesOnePair {models : List Model} {ends others : JoinEnds}
    (hends : ends.Within models) (hothers : others.Within models)
    (hone : NamesOnePair models ends.table) (htable : others.table = ends.table) :
    ends = others := by
  obtain ⟨hlesser, hgreater⟩ := hends.names_mem
  obtain ⟨hotherLesser, hotherGreater⟩ := hothers.names_mem
  rcases hone _ hlesser _ hgreater _ hotherLesser _ hotherGreater rfl htable with
    ⟨hl, hg⟩ | ⟨hl, hg⟩
  · exact eq_of_names hends hothers hl hg
  · -- Swapped ends would each have the lesser name, so there is but one name.
    have hback : ends.lesser.name.isBefore ends.greater.name = false := by
      rw [hl, hg]
      exact others.ordered
    have hsame : ends.greater.name = ends.lesser.name :=
      Text.eq_of_isBefore_eq_false ends.ordered hback
    apply eq_of_names hends hothers
    · rw [← hsame, hg]
    · rw [hsame, hl]

/-- What links its ends have when it is built shows in a table's key columns at most. -/
theorem agreeButForKeys_tableAfter (ends : JoinEnds) (prior later : List JoinEnds) :
    AgreeButForKeys (ends.tableAfter prior) (ends.tableAfter later) where
  documentation := rfl
  fields := rfl
  targets := rfl
  uniqueIndexes := rfl

/-- With distinct model names, the added tables have the same names in every order of the models,
and two tables of one name agree in all but key columns when the name is that of one pair only. -/
theorem addedTables_of_perm {models others : List Model} (hnames : (models.map (·.name)).Nodup)
    (hperm : models.Perm others) :
    ((addedTables models).map (·.name)).Perm ((addedTables others).map (·.name)) ∧
      ∀ table ∈ addedTables models, ∀ other ∈ addedTables others, other.name = table.name →
        NamesOnePair models table.name → AgreeButForKeys table other := by
  constructor
  · rw [map_name_addedTables, map_name_addedTables]
    exact map_table_plannedJoins_of_perm hnames hperm
  · intro table htable other hother hname hone
    obtain ⟨ends, hends, prior, rfl⟩ := exists_of_mem_addedTables htable
    obtain ⟨otherEnds, hotherEnds, later, rfl⟩ := exists_of_mem_addedTables hother
    have hwithin := JoinEnds.within_of_mem_plannedJoins hends
    have hotherWithin := JoinEnds.within_of_mem_plannedJoins hotherEnds
    obtain rfl := JoinEnds.eq_of_namesOnePair hwithin (within_of_perm hnames hperm hotherWithin)
      hone hname
    exact agreeButForKeys_tableAfter ends prior later

/-- A model that lists two others, and these two, which list it. -/
def starModels : List Model :=
  [{ name := "Hub", fields := [{ bareListTo "Left" with name := "lefts" },
      { bareListTo "Right" with name := "rights" }] },
    modelListing "Left" "Hub", modelListing "Right" "Hub"]

/-- In reverse order the two tables are found in reverse order, and agree. -/
theorem starModels_reversed :
    (starModels.map (·.name)).Nodup ∧ starModels.Perm starModels.reverse ∧
      (addedTables starModels).map (·.name) = [("_HubToLeft" : Text), ("_HubToRight" : Text)] ∧
      (addedTables starModels.reverse).map (·.name) =
        [("_HubToRight" : Text), ("_HubToLeft" : Text)] ∧
      ∀ table ∈ addedTables starModels, ∀ other ∈ addedTables starModels.reverse,
        other.name = table.name → AgreeButForKeys table other := by
  have hnames : (starModels.map (·.name)).Nodup := by decide
  have hperm : starModels.Perm starModels.reverse := (List.reverse_perm starModels).symm
  have hone : ∀ table ∈ addedTables starModels, NamesOnePair starModels table.name := by decide
  refine ⟨hnames, hperm, by decide, by decide, ?_⟩
  intro table htable other hother hname
  exact (addedTables_of_perm hnames hperm).2 table htable other hother hname (hone table htable)

end SchemaBook
