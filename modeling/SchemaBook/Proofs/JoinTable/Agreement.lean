import SchemaBook.Proofs.JoinTable.Scan

/-!
Agreement of the scan with the plan, part by part: which tables are added, in which order and of
what form, and what each given model gains. Both sides of every equation are about the given list;
the right one knows nothing of the scan.
-/

namespace SchemaBook

/-- The form of a join table, in terms of its two ends as they are given. -/
structure IsJoinTableOf (ends : JoinEnds) (table : Model) : Prop where
  name : table.name = ends.table
  fieldNames : table.fields.map (·.name) =
    [joinColumns.1, joinColumns.2, joinRelations.1, joinRelations.2]
  columns : table.columns.map (fun f => (f.name, f.kind)) =
    [(joinColumns.1, .column "scalar"), (joinColumns.2, .column "scalar")]
  relations : table.relations.map (fun f => (f.name, f.type, f.localColumns)) =
    [(joinRelations.1, ends.lesser.name, [joinColumns.1]),
      (joinRelations.2, ends.greater.name, [joinColumns.2])]
  uniqueIndexes : table.uniqueIndexes = [[joinColumns.1, joinColumns.2]]
  documentation : table.documentation = joinDocumentation ends.lesser ends.greater

theorem isJoinTableOf_tableAfter (ends : JoinEnds) (earlier : List JoinEnds) :
    IsJoinTableOf ends (ends.tableAfter earlier) where
  name := rfl
  fieldNames := rfl
  columns := rfl
  relations := rfl
  uniqueIndexes := rfl
  documentation := rfl

theorem forall₂_joinTablesAfter (earlier joins : List JoinEnds) :
    List.Forall₂ IsJoinTableOf joins (joinTablesAfter earlier joins) := by
  induction joins generalizing earlier with
  | nil => exact .nil
  | cons ends rest ih => exact .cons (isJoinTableOf_tableAfter ends earlier) (ih _)

theorem drop_withJoinTables (models : List Model) :
    (withJoinTables models).drop models.length = joinTablesAfter [] (plannedJoins models) := by
  rw [withJoinTables_eq_joined, joined, List.drop_left' (length_linkedModels _ _)]

theorem take_withJoinTables (models : List Model) :
    (withJoinTables models).take models.length = linkedModels models (plannedJoins models) := by
  rw [withJoinTables_eq_joined, joined, List.take_left' (length_linkedModels _ _)]

/-- The scan of the growing list adds the tables of the many-to-many pairs of the given list: one
for each table name that no model bears, in the order in which owners and fields first name it, each
between the ends of the first pair of that name. Every given model stays at its place and gains a
list field for each end of a table that it is, if it is the first model of its name; nothing else in
it changes. -/
theorem withJoinTables_follows_plan (models : List Model) :
    ((withJoinTables models).drop models.length).map (·.name) =
        firstOccurrences (((manyToMany models).map JoinEnds.table).filter
          fun name => !(models.map (·.name)).contains name) ∧
      List.Forall₂ IsJoinTableOf (plannedJoins models)
        ((withJoinTables models).drop models.length) ∧
      (∀ ends ∈ plannedJoins models,
        (manyToMany models).find? (fun pair => pair.table = ends.table) = some ends) ∧
      (withJoinTables models).take models.length =
        models.mapIdx (fun place m =>
          { m with
            fields := m.fields ++ m.linkFields (linksAt models (plannedJoins models) place m) }) ∧
      ∀ (m : Model) (links : List JoinLink),
        (m.linkFields links).map (fun f => (f.type, f.relationName)) =
            links.map (fun link => (link.table, some (joinRelationName link.table link.column))) ∧
          ∀ f ∈ m.linkFields links, f.isBareList = true := by
  refine ⟨?_, ?_, ?_, ?_, ?_⟩
  · rw [drop_withJoinTables, map_name_joinTablesAfter, map_table_plannedJoins]
  · rw [drop_withJoinTables]
    exact forall₂_joinTablesAfter [] (plannedJoins models)
  · intro ends hends
    have hfree := table_notMem_of_planned (List.mem_map_of_mem hends)
    rw [← find?_plannedJoins hfree]
    exact OrderedSet.find?_key_of_mem (nodup_table_plannedJoins models) hends
  · exact take_withJoinTables models
  · intro m links
    exact ⟨Model.map_target_linkFields m links, fun f => Model.isBareList_of_mem_linkFields⟩

end SchemaBook
