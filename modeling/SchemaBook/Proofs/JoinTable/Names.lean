import SchemaBook.Proofs.FreshName
import SchemaBook.Proofs.JoinTable.Scan

/-!
Names among models with join tables. A table has a name that no given model and no other table has,
and a list field one that no field of its model has when it is added, so a name that is made meets
no other, whatever names there are already. Main statement: with all join tables, the model names
and the field names in each model are distinct exactly when they are without.
-/

namespace SchemaBook

/-- The list fields that a model gains differ in name from its own and from each other. -/
theorem Model.nodup_fieldNames_withLinks {m : Model} (h : (m.fields.map (·.name)).Nodup)
    (links : List JoinLink) : ((m.withLinks links).fields.map (·.name)).Nodup := by
  induction links generalizing m with
  | nil => rwa [Model.withLinks_nil]
  | cons link rest ih =>
    rw [Model.withLinks_cons]
    apply ih
    have hfresh := freshName_notMem link.table (m.fields.map (·.name))
    rw [Model.linkedTo, List.map_append, List.nodup_append]
    refine ⟨h, List.nodup_singleton _, ?_⟩
    intro name hname other hother heq
    rw [List.map_singleton, List.mem_singleton] at hother
    rw [heq, hother] at hname
    exact hfresh hname

theorem JoinEnds.nodup_fieldNames_tableAfter (ends : JoinEnds) (earlier : List JoinEnds) :
    ((ends.tableAfter earlier).fields.map (·.name)).Nodup := by
  change ([joinColumns.1, joinColumns.2, joinRelations.1, joinRelations.2] : List Text).Nodup
  decide

theorem nodup_name_joined {models : List Model} (h : (models.map (·.name)).Nodup) :
    ((joined models (plannedJoins models)).map (·.name)).Nodup := by
  rw [map_name_joined, List.nodup_append]
  refine ⟨h, nodup_table_plannedJoins models, ?_⟩
  intro name hname table htable heq
  exact table_notMem_of_planned htable (heq ▸ hname)

theorem nodup_fieldNames_joined {models : List Model} (joins : List JoinEnds)
    (h : ∀ m ∈ models, (m.fields.map (·.name)).Nodup) :
    ∀ m ∈ joined models joins, (m.fields.map (·.name)).Nodup := by
  intro m hm
  rcases List.mem_append.1 hm with hlinked | htable
  · obtain ⟨place, hplace, rfl⟩ := List.mem_mapIdx.1 hlinked
    exact Model.nodup_fieldNames_withLinks (h _ (List.getElem_mem hplace)) _
  · obtain ⟨ends, -, prior, rfl⟩ := exists_of_mem_joinTablesAfter htable
    exact ends.nodup_fieldNames_tableAfter prior

theorem nodup_name_withJoinTables {models : List Model} (h : (models.map (·.name)).Nodup) :
    ((withJoinTables models).map (·.name)).Nodup := by
  rw [withJoinTables_eq_joined]
  exact nodup_name_joined h

theorem nodup_fieldNames_withJoinTables {models : List Model}
    (h : ∀ m ∈ models, (m.fields.map (·.name)).Nodup) :
    ∀ m ∈ withJoinTables models, (m.fields.map (·.name)).Nodup := by
  rw [withJoinTables_eq_joined]
  exact nodup_fieldNames_joined _ h

theorem nodup_name_of_joined {models : List Model} {joins : List JoinEnds}
    (h : ((joined models joins).map (·.name)).Nodup) : (models.map (·.name)).Nodup := by
  rw [map_name_joined] at h
  exact h.of_append_left

/-- A given model keeps its fields in front, so they are distinct when all its fields are. -/
theorem nodup_fieldNames_of_joined {models : List Model} {joins : List JoinEnds}
    (h : ∀ m ∈ joined models joins, (m.fields.map (·.name)).Nodup) :
    ∀ m ∈ models, (m.fields.map (·.name)).Nodup := by
  intro m hm
  obtain ⟨place, hplace, rfl⟩ := List.mem_iff_getElem.1 hm
  have hlinked : models[place].withLinks (linksAt models joins place models[place]) ∈
      joined models joins :=
    List.mem_append_left _ (List.mem_mapIdx.2 ⟨place, hplace, rfl⟩)
  have hfields := h _ hlinked
  rw [Model.withLinks, List.map_append] at hfields
  exact hfields.of_append_left

/-- Making join tables explicit keeps names apart, and does not part equal ones: the model names are
distinct with the tables exactly when they are without, and so are the field names in each model.
How many tables an end has, whether it is both ends of one, and which names its fields bear already
does not matter. -/
theorem names_withJoinTables_nodup_iff (models : List Model) :
    (((withJoinTables models).map (·.name)).Nodup ↔ (models.map (·.name)).Nodup) ∧
      ((∀ m ∈ withJoinTables models, (m.fields.map (·.name)).Nodup) ↔
        ∀ m ∈ models, (m.fields.map (·.name)).Nodup) := by
  constructor
  · refine ⟨?_, nodup_name_withJoinTables⟩
    rw [withJoinTables_eq_joined]
    exact nodup_name_of_joined
  · refine ⟨?_, nodup_fieldNames_withJoinTables⟩
    rw [withJoinTables_eq_joined]
    exact nodup_fieldNames_of_joined

end SchemaBook
