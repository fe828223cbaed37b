import SchemaBook.Proofs.JoinTable.Agreement

/-!
Which many-to-many relations become explicit. Tables are told apart by their names, and the names of
two pairs of models may agree, because a model's name may hold the word that joins two names. Of
such pairs only the first gets a table. Main statement: a relation becomes explicit exactly when, of
the pairs with its table name, the first one is its own.
-/

namespace SchemaBook

/-- The model has its own fields in the result and behind them a list field that leads to the table.
-/
def GainsLink (models result : List Model) (m : Model) (table : Text) : Prop :=
  ∃ (place : Nat) (added : List Field), models[place]? = some m ∧
    result[place]? = some { m with fields := m.fields ++ added } ∧
    ∃ f ∈ added, f.isRelation = true ∧ f.isList = true ∧ f.type = table

/-- A table of the name for two models has exactly two relations, each stored in a column: to the
model of the lesser name and to that of the greater one. -/
def HasJoinTable (result : List Model) (a b : Model) : Prop :=
  ∃ table ∈ result, table.name = joinName a.name b.name ∧
    table.relations.map (·.type) =
      [(orderedNames a.name b.name).1, (orderedNames a.name b.name).2] ∧
    ∀ relation ∈ table.relations, relation.localColumns ≠ []

/-- The many-to-many relation of two models is explicit among the models with all join tables. -/
structure IsExplicit (models : List Model) (a b : Model) : Prop where
  table : HasJoinTable (withJoinTables models) a b
  firstLink : GainsLink models (withJoinTables models) a (joinName a.name b.name)
  secondLink : GainsLink models (withJoinTables models) b (joinName a.name b.name)

theorem JoinEnds.names_ofModels (a b : Model) :
    ((ofModels a b).lesser.name, (ofModels a b).greater.name) = orderedNames a.name b.name := by
  unfold ofModels orderedNames
  split <;> rfl

theorem JoinEnds.eq_of_names {models : List Model} {ends others : JoinEnds}
    (hends : ends.Within models) (hothers : others.Within models)
    (hlesser : ends.lesser.name = others.lesser.name)
    (hgreater : ends.greater.name = others.greater.name) : ends = others := by
  have hl := eq_of_firstNamed? hends.lesser hothers.lesser hlesser
  have hg := eq_of_firstNamed? hends.greater hothers.greater hgreater
  cases ends
  cases others
  rw [JoinEnds.mk.injEq]
  exact ⟨hl, hg⟩

/-- Where names are distinct every model is the first of its name. -/
theorem firstNamed?_of_mem {models : List Model} (hnames : (models.map (·.name)).Nodup) {m : Model}
    (h : m ∈ models) : firstNamed? models m.name = some m := by
  rw [← OrderedSet.find?_key_of_mem hnames h, firstNamed?]
  congr 1
  funext other
  exact beq_eq_decide other.name m.name

theorem joinEnds?_eq_some {models : List Model} (hnames : (models.map (·.name)).Nodup)
    {a b : Model} (ha : a ∈ models) (hb : b ∈ models) {field : Field}
    (hbare : field.isBareList = true) (htype : field.type = b.name)
    (hcounterpart : (counterpart? a field b).isSome = true) :
    joinEnds? models a field = some (.ofModels a b) := by
  simp only [joinEnds?, hbare, htype, firstNamed?_of_mem hnames ha, firstNamed?_of_mem hnames hb,
    hcounterpart, if_true]

/-- A model of the result whose name no given model bears is the table of a planned pair. -/
theorem exists_planned_of_mem {models : List Model} {table : Model}
    (h : table ∈ withJoinTables models) (hfree : table.name ∉ models.map (·.name)) :
    ∃ ends ∈ plannedJoins models, IsJoinTableOf ends table := by
  rw [withJoinTables_eq_joined] at h
  rcases List.mem_append.1 h with hlinked | htable
  · refine absurd ?_ hfree
    rw [← map_name_linkedModels models (plannedJoins models)]
    exact List.mem_map_of_mem hlinked
  · obtain ⟨ends, hends, prior, rfl⟩ := exists_of_mem_joinTablesAfter htable
    exact ⟨ends, hends, isJoinTableOf_tableAfter ends prior⟩

/-- A model that is the first of its name and an end of a planned pair gains a link to its table. -/
theorem gainsLink_of_planned {models : List Model} {ends : JoinEnds}
    (hends : ends ∈ plannedJoins models) {m : Model} (hm : firstNamed? models m.name = some m)
    (hend : ends.lesser.name = m.name ∨ ends.greater.name = m.name) :
    GainsLink models (withJoinTables models) m ends.table := by
  obtain ⟨place, hat, hlinked⟩ := exists_place_withLinks hm
  have hlink : ∃ link ∈ m.linksTo (plannedJoins models), link.table = ends.table := by
    rcases hend with hlesser | hgreater
    · refine ⟨⟨ends.table, joinColumns.1⟩, List.mem_flatMap.2 ⟨ends, hends, ?_⟩, rfl⟩
      simp [JoinEnds.links, hlesser]
    · refine ⟨⟨ends.table, joinColumns.2⟩, List.mem_flatMap.2 ⟨ends, hends, ?_⟩, rfl⟩
      simp [JoinEnds.links, hgreater]
  obtain ⟨link, hmember, htable⟩ := hlink
  obtain ⟨f, hf, htype⟩ := Model.exists_linkField hmember
  obtain ⟨hrelation, hlist⟩ := Model.isList_of_mem_linkFields hf
  exact ⟨place, m.linkFields (m.linksTo (plannedJoins models)), hat, hlinked,
    f, hf, hrelation, hlist, htype.trans htable⟩

theorem hasJoinTable_of_planned {models : List Model} {a b : Model}
    (hends : JoinEnds.ofModels a b ∈ plannedJoins models) :
    HasJoinTable (withJoinTables models) a b := by
  obtain ⟨prior, htable⟩ := exists_mem_joinTablesAfter hends []
  have hform := isJoinTableOf_tableAfter (JoinEnds.ofModels a b) prior
  refine ⟨_, ?_, hform.name.trans (JoinEnds.table_ofModels a b), ?_, ?_⟩
  · rw [withJoinTables_eq_joined]
    exact List.mem_append_right _ htable
  · rw [← JoinEnds.names_ofModels]
    rfl
  · intro relation hrelation
    have hcolumns := List.mem_map_of_mem (f := fun r : Field => (r.name, r.type, r.localColumns))
      hrelation
    rw [hform.relations] at hcolumns
    intro hnone
    rw [hnone] at hcolumns
    simp at hcolumns

/-- A relation that is explicit has the first pair of its table name: the table of that name is the
one of the first such pair, and no model has it. -/
theorem first_of_hasJoinTable {models : List Model} {a b : Model} {pair : JoinEnds}
    (hpair : pair ∈ plannedJoins models) (hname : pair.table = joinName a.name b.name)
    (hfree : joinName a.name b.name ∉ models.map (·.name))
    (hends : (JoinEnds.ofModels a b).Within models)
    (h : HasJoinTable (withJoinTables models) a b) : pair = .ofModels a b := by
  obtain ⟨table, htable, htableName, htypes, -⟩ := h
  obtain ⟨planned, hplanned, hform⟩ := exists_planned_of_mem htable (htableName ▸ hfree)
  have hsame : planned = pair := by
    apply List.inj_on_of_nodup_map (nodup_table_plannedJoins models) hplanned hpair
    rw [← hform.name, htableName, hname]
  have hrelations := congrArg (List.map fun r : Text × Text × List Text => r.2.1) hform.relations
  rw [List.map_map] at hrelations
  have hordered := hrelations.symm.trans htypes
  have hwithin := JoinEnds.within_of_mem_plannedJoins hpair
  rw [hsame, ← JoinEnds.names_ofModels] at hordered
  simp only [List.map_cons, List.map_nil, List.cons.injEq, and_true] at hordered
  exact JoinEnds.eq_of_names hwithin hends hordered.1 hordered.2

/-- With distinct model names, a many-to-many relation whose table name no model bears becomes
explicit exactly when the first of the pairs with that table name is its own pair. So every relation
becomes explicit where no two pairs have one table name. -/
theorem isExplicit_iff_first {models : List Model} (hnames : (models.map (·.name)).Nodup)
    {a b : Model} (ha : a ∈ models) (hb : b ∈ models) {field : Field} (hfield : field ∈ a.fields)
    (hbare : field.isBareList = true) (htype : field.type = b.name)
    (hcounterpart : (counterpart? a field b).isSome = true)
    (hfree : joinName a.name b.name ∉ models.map (·.name)) :
    IsExplicit models a b ↔
      (manyToMany models).find? (fun pair => pair.table = joinName a.name b.name) =
        some (.ofModels a b) := by
  have hends := joinEnds?_eq_some hnames ha hb hbare htype hcounterpart
  have hwithin := JoinEnds.within_of_joinEnds? hends
  rw [← find?_plannedJoins hfree]
  constructor
  · intro h
    have hpair : JoinEnds.ofModels a b ∈ manyToMany models :=
      List.mem_flatMap.2 ⟨a, ha, List.mem_filterMap.2 ⟨field, hfield, hends⟩⟩
    have hsome : ((plannedJoins models).find? fun pair =>
        pair.table = joinName a.name b.name).isSome := by
      rw [find?_plannedJoins hfree, List.find?_isSome]
      exact ⟨_, hpair, by simp⟩
    obtain ⟨pair, hfound⟩ := Option.isSome_iff_exists.1 hsome
    have hname : pair.table = joinName a.name b.name := by simpa using List.find?_some hfound
    have hplanned := List.mem_of_find?_eq_some hfound
    rw [hfound, first_of_hasJoinTable hplanned hname hfree hwithin h.table]
  · intro hfound
    have hplanned := List.mem_of_find?_eq_some hfound
    have hfirst := gainsLink_of_planned hplanned (firstNamed?_of_mem hnames ha)
    have hsecond := gainsLink_of_planned hplanned (firstNamed?_of_mem hnames hb)
    rw [JoinEnds.table_ofModels] at hfirst hsecond
    rcases JoinEnds.ends_ofModels a b with ⟨hl, hg⟩ | ⟨hl, hg⟩
    · exact ⟨hasJoinTable_of_planned hplanned, hfirst (.inr (congrArg Model.name hg)),
        hsecond (.inl (congrArg Model.name hl))⟩
    · exact ⟨hasJoinTable_of_planned hplanned, hfirst (.inl (congrArg Model.name hl)),
        hsecond (.inr (congrArg Model.name hg))⟩

def bareListTo (target : Text) : Field where
  name := "others"
  type := target
  kind := .relation
  isList := true

def modelListing (name target : Text) : Model where
  name
  fields := [bareListTo target]

/-- Two pairs of models with distinct names and one table name. -/
def clashingPairs : List Model :=
  [modelListing "A" "BToC", modelListing "BToC" "A", modelListing "AToB" "C",
    modelListing "C" "AToB"]

theorem clashing_first_isExplicit :
    IsExplicit clashingPairs (modelListing "A" "BToC") (modelListing "BToC" "A") :=
  have hfield : bareListTo "BToC" ∈ (modelListing "A" "BToC").fields := List.mem_cons_self
  (isExplicit_iff_first (by decide) (by decide) (by decide) hfield (by decide) (by decide)
    (by decide) (by decide)).2 (by decide)

/-- Distinct names do not make every many-to-many relation explicit: the second of two pairs with
one table name is lost. -/
theorem not_all_isExplicit :
    ¬∀ (models : List Model) (a b : Model) (field : Field), (models.map (·.name)).Nodup →
      a ∈ models → b ∈ models → field ∈ a.fields → field.isBareList = true →
      field.type = b.name → (counterpart? a field b).isSome = true →
      joinName a.name b.name ∉ models.map (·.name) → IsExplicit models a b := by
  intro hall
  have hexplicit := hall clashingPairs (modelListing "AToB" "C") (modelListing "C" "AToB")
    (bareListTo "C") (by decide) (by decide) (by decide) (by decide) (by decide) (by decide)
    (by decide) (by decide)
  obtain ⟨table, htable, hname, htypes, -⟩ := hexplicit.table
  have hother : ∀ table ∈ withJoinTables clashingPairs, table.name = joinName "AToB" "C" →
      table.relations.map (·.type) = [("A" : String), ("BToC" : String)] := by decide
  rw [hother table htable hname] at htypes
  revert htypes
  decide

end SchemaBook
