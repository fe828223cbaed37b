import SchemaBook.Proofs.JoinTable.Scan

/-!
A second scan adds nothing. The list fields and tables of the first scan are part of its input now,
but no pair has a half among them: an added field leads to a table, a table has no list fields, and
every pair of the given fields has a model or a table of its name already.
-/

namespace SchemaBook

theorem joinEnds?_eq_none_of_not_bare {models : List Model} {owner : Model} {field : Field}
    (h : field.isBareList = false) : joinEnds? models owner field = none := by
  simp [joinEnds?, h]

theorem joinEnds?_eq_none_of_unknown {models : List Model} {owner : Model} {field : Field}
    (h : field.type ∉ models.map (·.name)) : joinEnds? models owner field = none := by
  have hnone : firstNamed? models field.type = none := by
    rwa [← Option.not_isSome_iff_eq_none, firstNamed?_isSome]
  simp [joinEnds?, hnone]

/-- Which pair a field is half of depends on no more of its owner than the name. -/
theorem joinEnds?_withLinks (models : List Model) (owner : Model) (links : List JoinLink)
    (field : Field) :
    joinEnds? models (owner.withLinks links) field = joinEnds? models owner field := rfl

theorem isFree_of_mem_plannedJoins {models : List Model} :
    ∀ ends ∈ plannedJoins models, ends.isFree models = true := by
  intro ends hends
  exact (mem_manyToMany_of_planned hends).2

/-- Every many-to-many pair has a model or a table of its name in the end. -/
theorem table_mem_of_manyToMany {models : List Model} {ends : JoinEnds}
    (h : ends ∈ manyToMany models) :
    ends.table ∈ (joined models (plannedJoins models)).map (·.name) := by
  rw [map_name_joined, List.mem_append]
  by_cases hgiven : ends.table ∈ models.map (·.name)
  · exact .inl hgiven
  · refine .inr ?_
    rw [map_table_plannedJoins, mem_firstOccurrences, List.mem_filter]
    exact ⟨List.mem_map_of_mem h, by simpa using hgiven⟩

/-- A pair that the models with all join tables name is one that the given models name. -/
theorem mem_manyToMany_of_joined {models : List Model} {ends : JoinEnds}
    (h : ends ∈ manyToMany (joined models (plannedJoins models))) :
    ∃ given ∈ manyToMany models, given.table = ends.table := by
  obtain ⟨owner, howner, hpair⟩ := List.mem_flatMap.1 h
  obtain ⟨field, hfield, hends⟩ := List.mem_filterMap.1 hpair
  rcases List.mem_append.1 howner with hlinked | htable
  · obtain ⟨place, hplace, hat⟩ := List.mem_mapIdx.1 hlinked
    subst hat
    have hmember : models[place] ∈ models := List.getElem_mem hplace
    have hname : models[place].name ∈ models.map (·.name) := List.mem_map_of_mem hmember
    rw [joinEnds?_joined isFree_of_mem_plannedJoins (by exact hname),
      joinEnds?_withLinks] at hends
    obtain ⟨given, hgiven, rfl⟩ := Option.map_eq_some_iff.1 hends
    refine ⟨given, ?_, rfl⟩
    -- An added field leads to a table, which is no model of the given list.
    rcases List.mem_append.1 hfield with hown | hadded
    · exact List.mem_flatMap.2 ⟨_, hmember, List.mem_filterMap.2 ⟨field, hown, hgiven⟩⟩
    · have hunknown := table_notMem_of_planned (type_mem_of_mem_linkFields hadded)
      rw [joinEnds?_eq_none_of_unknown hunknown] at hgiven
      cases hgiven
  · rw [joinEnds?_eq_none_of_not_bare (isBareList_of_mem_joinTable htable field hfield)] at hends
    cases hends

/-- Nothing is planned for models that have all join tables. -/
theorem plannedJoins_joined (models : List Model) :
    plannedJoins (joined models (plannedJoins models)) = [] := by
  refine List.eq_nil_iff_forall_not_mem.2 ?_
  intro ends hends
  obtain ⟨hpair, hfree⟩ := mem_manyToMany_of_planned hends
  obtain ⟨given, hgiven, htable⟩ := mem_manyToMany_of_joined hpair
  exact JoinEnds.isFree_iff.1 hfree (htable ▸ table_mem_of_manyToMany hgiven)

/-- Models with all join tables stay as they are: the same models in the same order, with the same
fields. This holds for every list, whatever names, types and relation names it has. -/
theorem withJoinTables_idempotent (models : List Model) :
    withJoinTables (withJoinTables models) = withJoinTables models := by
  rw [withJoinTables_eq_joined models, withJoinTables_eq_joined (joined _ _), plannedJoins_joined,
    joined_nil]

end SchemaBook
