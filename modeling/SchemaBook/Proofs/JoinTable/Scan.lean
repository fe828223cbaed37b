import SchemaBook.Proofs.JoinTable.Joined

/-!
The scan of a growing list of models follows the plan that is made from the given models alone. Main
statements: what the scan does at one field, and that the models with all join tables are the given
models with their planned links, followed by the planned tables.
-/

namespace SchemaBook

/-- What the scan does at one field, in the terms of the plan but read off the growing list: a pair
whose table is missing gets it, and nothing else happens. -/
theorem joinField_eq {models : List Model} {owner : Model} {field : Field}
    (howner : owner.name ∈ models.map (·.name)) :
    joinField owner models field =
      match joinEnds? models owner field with
      | none => models
      | some ends =>
        if ends.table ∈ models.map (·.name) then models
        else match modelPlace? models ends.lesser.name, modelPlace? models ends.greater.name with
          | some lesser, some greater => addJoinTable models lesser greater
          | _, _ => models := by
  obtain ⟨here, hhere⟩ := Option.isSome_iff_exists.1 (firstNamed?_isSome.2 howner)
  obtain ⟨herePlace, hherePlace, -⟩ := place_of_firstNamed? hhere
  have hhereName := name_of_firstNamed? hhere
  unfold joinField joinEnds?
  by_cases hbare : field.isBareList = true
  · simp only [hbare, hhere, hherePlace, Bool.not_true, Bool.false_eq_true, if_false, if_true]
    cases htarget : firstNamed? models field.type with
    | none => simp only [modelPlace?_eq_none_iff.2 htarget]
    | some target =>
      obtain ⟨there, hthere, hat⟩ := place_of_firstNamed? htarget
      have htargetName := name_of_firstNamed? htarget
      simp only [hthere, hat]
      cases hcounterpart : counterpart? owner field target with
      | none => simp
      | some half =>
        simp only [Option.isNone_some, Option.isSome_some, Bool.false_eq_true, if_false, if_true,
          modelPlace?_isSome, JoinEnds.table_ofModels, hhereName]
        split
        · rfl
        · by_cases hbefore : target.name.isBefore owner.name = true
          · rw [if_pos hbefore, JoinEnds.ofModels_of_isBefore (hhereName ▸ hbefore)]
            simp only [hhereName, htargetName, hherePlace, hthere]
          · rw [if_neg hbefore, JoinEnds.ofModels_of_not_isBefore (hhereName ▸ hbefore)]
            simp only [hhereName, htargetName, hherePlace, hthere]
  · simp [hbare]

/-- With free tables in place, a field of a model of a given name is half of the pair that it is
half of among the given models. -/
theorem joinEnds?_joined {models : List Model} {joins : List JoinEnds}
    (hfree : ∀ ends ∈ joins, ends.isFree models = true) {owner : Model}
    (howner : owner.name ∈ models.map (·.name)) (field : Field) :
    joinEnds? (joined models joins) owner field =
      (joinEnds? models owner field).map (·.linked joins) := by
  obtain ⟨here, hhere⟩ := Option.isSome_iff_exists.1 (firstNamed?_isSome.2 howner)
  unfold joinEnds?
  by_cases hbare : field.isBareList = true
  · rw [if_pos hbare, if_pos hbare, hhere, firstNamed?_joined_of_given joins hhere]
    cases hgiven : firstNamed? models field.type with
    | none =>
      cases htarget : firstNamed? (joined models joins) field.type with
      | none => rfl
      | some table =>
        have htable := mem_joinTables_of_firstNamed?_joined hgiven htarget
        simp [counterpart?_joinTable htable]
    | some given =>
      have hne : ∀ link ∈ given.linksTo joins, link.table ≠ owner.name := by
        intro link hlink heq
        obtain ⟨ends, hends, htable⟩ := List.mem_map.1 (Model.table_mem_of_mem_linksTo hlink)
        exact JoinEnds.isFree_iff.1 (hfree ends hends) (htable ▸ heq ▸ howner)
      simp only [firstNamed?_joined_of_given joins hgiven, counterpart?_withLinks hne]
      split
      · rw [Option.map_some, JoinEnds.linked_ofModels]
      · rfl
  · rw [if_neg hbare, if_neg hbare, Option.map_none]

/-- With free tables in place, the scan adds at one field the table of the pair that the plan names
there, unless a model or a table has its name. -/
theorem joinField_joined {models : List Model} {joins : List JoinEnds}
    (hfree : ∀ ends ∈ joins, ends.isFree models = true) {owner : Model}
    (howner : owner.name ∈ models.map (·.name)) (field : Field) :
    joinField owner (joined models joins) field =
      match joinEnds? models owner field with
      | none => joined models joins
      | some ends =>
        if ends.table ∈ (joined models joins).map (·.name) then joined models joins
        else joined models (joins ++ [ends]) := by
  have hname : owner.name ∈ (joined models joins).map (·.name) := by
    rw [map_name_joined]
    exact List.mem_append_left _ howner
  rw [joinField_eq hname, joinEnds?_joined hfree howner]
  cases hends : joinEnds? models owner field with
  | none => rfl
  | some ends =>
    have hwithin := JoinEnds.within_of_joinEnds? hends
    obtain ⟨lesser, hlesser, -⟩ := place_of_firstNamed? hwithin.lesser
    obtain ⟨greater, hgreater, -⟩ := place_of_firstNamed? hwithin.greater
    simp only [Option.map_some, JoinEnds.table_linked, JoinEnds.name_lesser_linked,
      JoinEnds.name_greater_linked, modelPlace?_joined_of_given joins hlesser,
      modelPlace?_joined_of_given joins hgreater,
      addJoinTable_joined joins hwithin hlesser hgreater]

theorem joined_insert_of_isFree {models : List Model} {joins : OrderedSet JoinEnds.table}
    {ends : JoinEnds} (hends : ends.isFree models = true) :
    (if ends.table ∈ (joined models joins.toList).map (·.name) then joined models joins.toList
      else joined models (joins.toList ++ [ends])) = joined models (joins.insert ends).toList := by
  have hnew : ends.table ∉ models.map (·.name) := JoinEnds.isFree_iff.1 hends
  rw [map_name_joined]
  by_cases hplanned : ends.table ∈ joins.toList.map JoinEnds.table
  · rw [if_pos (List.mem_append_right _ hplanned), OrderedSet.toList_insert_of_mem hplanned]
  · have hmissing : ends.table ∉ models.map (·.name) ++ joins.toList.map JoinEnds.table := by
      rw [List.mem_append]
      rintro (hgiven | htable)
      · exact hnew hgiven
      · exact hplanned htable
    rw [if_neg hmissing, OrderedSet.toList_insert_of_notMem hplanned]

/-- The pairs with free tables that fields of an owner name, in order. -/
def freePairs (models : List Model) (owner : Model) (fields : List Field) : List JoinEnds :=
  (fields.filterMap (joinEnds? models owner)).filter (JoinEnds.isFree models)

theorem isFree_of_mem_freePairs {models : List Model} {owner : Model} {fields : List Field}
    {ends : JoinEnds} (h : ends ∈ freePairs models owner fields) : ends.isFree models = true :=
  (List.mem_filter.1 h).2

theorem isFree_of_mem_foldl_insert {models : List Model} {joins : OrderedSet JoinEnds.table}
    (hfree : ∀ ends ∈ joins.toList, ends.isFree models = true) (pairs : List JoinEnds)
    (hpairs : ∀ ends ∈ pairs, ends.isFree models = true) :
    ∀ ends ∈ (pairs.foldl OrderedSet.insert joins).toList, ends.isFree models = true := by
  intro ends hends
  rcases OrderedSet.mem_of_mem_foldl_insert hends with hold | hnew
  · exact hfree ends hold
  · exact hpairs ends hnew

/-- The scan of an owner's fields inserts its pairs with free tables into the plan so far. -/
theorem foldl_joinField {models : List Model} {joins : OrderedSet JoinEnds.table}
    (hfree : ∀ ends ∈ joins.toList, ends.isFree models = true) {owner : Model}
    (howner : owner.name ∈ models.map (·.name)) (fields : List Field) :
    fields.foldl (joinField owner) (joined models joins.toList) =
      joined models ((freePairs models owner fields).foldl OrderedSet.insert joins).toList := by
  induction fields generalizing joins with
  | nil => rfl
  | cons field rest ih =>
    rw [List.foldl_cons, joinField_joined hfree howner, freePairs, List.filterMap_cons]
    cases hends : joinEnds? models owner field with
    | none => exact ih hfree
    | some ends =>
      dsimp only
      by_cases hnew : ends.isFree models = true
      · have hfreeNext : ∀ other ∈ (joins.insert ends).toList, other.isFree models = true :=
          isFree_of_mem_foldl_insert hfree [ends] (by simpa using hnew)
        rw [List.filter_cons_of_pos hnew, List.foldl_cons, joined_insert_of_isFree hnew]
        exact ih hfreeNext
      · have htaken : ends.table ∈ (joined models joins.toList).map (·.name) := by
          rw [map_name_joined]
          exact List.mem_append_left _ (by simpa [JoinEnds.isFree] using hnew)
        rw [List.filter_cons_of_neg hnew, if_pos htaken]
        exact ih hfree

/-- The scan of a list of given owners inserts the pairs with free tables of all of them. -/
theorem foldl_joinOwner {models : List Model} (joins : OrderedSet JoinEnds.table)
    (hfree : ∀ ends ∈ joins.toList, ends.isFree models = true) {owners : List Model}
    (howners : ∀ owner ∈ owners, owner.name ∈ models.map (·.name)) :
    owners.foldl joinOwner (joined models joins.toList) =
      joined models ((owners.flatMap fun owner => freePairs models owner owner.fields).foldl
        OrderedSet.insert joins).toList := by
  induction owners generalizing joins with
  | nil => rfl
  | cons owner rest ih =>
    have howner := howners owner List.mem_cons_self
    have hrest : ∀ other ∈ rest, other.name ∈ models.map (·.name) := by
      intro other hother
      exact howners other (List.mem_cons_of_mem owner hother)
    have hfreeNext := isFree_of_mem_foldl_insert hfree (freePairs models owner owner.fields)
      fun ends hends => isFree_of_mem_freePairs hends
    rw [List.foldl_cons, joinOwner, foldl_joinField hfree howner, ih _ hfreeNext hrest,
      List.flatMap_cons, List.foldl_append]

/-- No link changes a model, and no table is there, before the first pair. -/
theorem joined_nil (models : List Model) : joined models [] = models := by
  apply List.ext_getElem?
  intro place
  simp [joined, joinTablesAfter, linkedModels, linksAt, Model.linksTo]

/-- The models with all join tables are those that the plan describes. -/
theorem withJoinTables_eq_joined (models : List Model) :
    withJoinTables models = joined models (plannedJoins models) := by
  have hnames : ∀ owner ∈ models, owner.name ∈ models.map (·.name) := by
    intro owner howner
    exact List.mem_map.2 ⟨owner, howner, rfl⟩
  have hscan := foldl_joinOwner (OrderedSet.empty JoinEnds.table)
    (fun ends hends => nomatch hends) hnames
  have hpairs : (models.flatMap fun owner => freePairs models owner owner.fields) =
      (manyToMany models).filter (JoinEnds.isFree models) := by
    rw [manyToMany, List.filter_flatMap]
    rfl
  rw [hpairs] at hscan
  rw [withJoinTables, plannedJoins, OrderedSet.ofList, ← hscan, OrderedSet.empty, joined_nil]

/-- The first model of a name stays at its place, with the fields that it gains. -/
theorem exists_place_withLinks {models : List Model} {m : Model}
    (h : firstNamed? models m.name = some m) :
    ∃ place : Nat, models[place]? = some m ∧
      (withJoinTables models)[place]? = some (m.withLinks (m.linksTo (plannedJoins models))) := by
  obtain ⟨place, hplace, hat⟩ := place_of_firstNamed? h
  refine ⟨place, hat, ?_⟩
  rw [withJoinTables_eq_joined]
  exact getElem?_joined_of_place _ hplace hat

end SchemaBook
