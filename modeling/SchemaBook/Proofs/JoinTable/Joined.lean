import SchemaBook.Proofs.JoinTable.Plan

/-!
The models with a number of join tables in place: which names they bear, what stands at which place,
and what adding one table more does. Added fields and models never create a counterpart and never
hide one: an added field leads to a table, whose name no given model bears, and a table has no list
fields.
-/

namespace SchemaBook

structure JoinEnds.Within (models : List Model) (ends : JoinEnds) : Prop where
  lesser : firstNamed? models ends.lesser.name = some ends.lesser
  greater : firstNamed? models ends.greater.name = some ends.greater

theorem name_of_firstNamed? {models : List Model} {name : Text} {m : Model}
    (h : firstNamed? models name = some m) : m.name = name := by
  simpa using List.find?_some h

theorem mem_of_firstNamed? {models : List Model} {name : Text} {m : Model}
    (h : firstNamed? models name = some m) : m ∈ models :=
  List.mem_of_find?_eq_some h

theorem firstNamed?_isSome {models : List Model} {name : Text} :
    (firstNamed? models name).isSome ↔ name ∈ models.map (·.name) := by
  simp [firstNamed?, List.find?_isSome]

theorem modelPlace?_isSome {models : List Model} {name : Text} :
    (modelPlace? models name).isSome ↔ name ∈ models.map (·.name) := by
  simp [modelPlace?, List.findIdx?_isSome]

theorem modelPlace?_eq_none_iff {models : List Model} {name : Text} :
    modelPlace? models name = none ↔ firstNamed? models name = none := by
  rw [← Option.not_isSome_iff_eq_none, ← Option.not_isSome_iff_eq_none, modelPlace?_isSome,
    firstNamed?_isSome]

theorem firstNamed?_eq_at_place (models : List Model) (name : Text) :
    firstNamed? models name = (modelPlace? models name).bind fun place => models[place]? :=
  List.find?_eq_bind_findIdx?_getElem?

theorem place_of_firstNamed? {models : List Model} {name : Text} {m : Model}
    (h : firstNamed? models name = some m) :
    ∃ place, modelPlace? models name = some place ∧ models[place]? = some m := by
  rw [firstNamed?_eq_at_place] at h
  exact Option.bind_eq_some_iff.1 h

theorem getElem?_of_firstNamed? {models : List Model} {name : Text} {m : Model} {place : Nat}
    (h : firstNamed? models name = some m) (hplace : modelPlace? models name = some place) :
    models[place]? = some m := by
  rwa [firstNamed?_eq_at_place, hplace, Option.bind_some] at h

/-- Two first models of one name are one model. -/
theorem eq_of_firstNamed? {models : List Model} {m other : Model}
    (hm : firstNamed? models m.name = some m)
    (hother : firstNamed? models other.name = some other) (h : m.name = other.name) :
    m = other := by
  rw [h, hother] at hm
  exact (Option.some.inj hm).symm

theorem JoinEnds.within_of_joinEnds? {models : List Model} {owner : Model} {field : Field}
    {ends : JoinEnds} (h : joinEnds? models owner field = some ends) : ends.Within models := by
  unfold joinEnds? at h
  split at h
  · split at h
    · next here target hhere htarget =>
      have hhere' := name_of_firstNamed? hhere ▸ hhere
      have htarget' := name_of_firstNamed? htarget ▸ htarget
      split at h
      · obtain rfl := Option.some.inj h
        rcases JoinEnds.ends_ofModels here target with ⟨hl, hg⟩ | ⟨hl, hg⟩
        · exact ⟨by rwa [hl], by rwa [hg]⟩
        · exact ⟨by rwa [hl], by rwa [hg]⟩
      · cases h
    · cases h
  · cases h

theorem JoinEnds.within_of_mem_manyToMany {models : List Model} {ends : JoinEnds}
    (h : ends ∈ manyToMany models) : ends.Within models := by
  obtain ⟨owner, -, hpair⟩ := List.mem_flatMap.1 h
  obtain ⟨field, -, hends⟩ := List.mem_filterMap.1 hpair
  exact within_of_joinEnds? hends

theorem JoinEnds.within_of_mem_plannedJoins {models : List Model} {ends : JoinEnds}
    (h : ends ∈ plannedJoins models) : ends.Within models :=
  within_of_mem_manyToMany (mem_manyToMany_of_planned h).1

theorem length_linkedModels (models : List Model) (joins : List JoinEnds) :
    (linkedModels models joins).length = models.length :=
  List.length_mapIdx

theorem map_name_linkedModels (models : List Model) (joins : List JoinEnds) :
    (linkedModels models joins).map (·.name) = models.map (·.name) := by
  apply List.ext_getElem?
  intro place
  simp [linkedModels, Option.map_map, Function.comp_def]

theorem map_name_joinTablesAfter (earlier joins : List JoinEnds) :
    (joinTablesAfter earlier joins).map (·.name) = joins.map JoinEnds.table := by
  induction joins generalizing earlier with
  | nil => rfl
  | cons ends rest ih =>
    rw [joinTablesAfter, List.map_cons, List.map_cons, ih]
    rfl

theorem map_name_joined (models : List Model) (joins : List JoinEnds) :
    (joined models joins).map (·.name) = models.map (·.name) ++ joins.map JoinEnds.table := by
  rw [joined, List.map_append, map_name_linkedModels, map_name_joinTablesAfter]

theorem modelPlace?_joined_of_given {models : List Model} (joins : List JoinEnds) {name : Text}
    {place : Nat} (h : modelPlace? models name = some place) :
    modelPlace? (joined models joins) name = some place := by
  have hnames : modelPlace? (linkedModels models joins) name = modelPlace? models name := by
    have hmap := congrArg (List.findIdx? (· == name)) (map_name_linkedModels models joins)
    rwa [List.findIdx?_map, List.findIdx?_map] at hmap
  unfold modelPlace? at hnames h ⊢
  rw [joined, List.findIdx?_append, hnames, h, Option.some_or]

/-- The first model of a name keeps its place and has the links to all tables. -/
theorem getElem?_joined_of_place {models : List Model} (joins : List JoinEnds) {name : Text}
    {place : Nat} {m : Model} (hplace : modelPlace? models name = some place)
    (hm : models[place]? = some m) :
    (joined models joins)[place]? = some (m.withLinks (m.linksTo joins)) := by
  have hname : m.name = name := by
    have hfirst : firstNamed? models name = some m := by
      rw [firstNamed?_eq_at_place, hplace, Option.bind_some, hm]
    exact name_of_firstNamed? hfirst
  obtain ⟨hbound, -⟩ := List.getElem?_eq_some_iff.1 hm
  rw [joined, List.getElem?_append_left (by rwa [length_linkedModels]), linkedModels,
    List.getElem?_mapIdx, hm, Option.map_some, linksAt, hname, if_pos hplace]

theorem firstNamed?_joined_of_given {models : List Model} (joins : List JoinEnds) {name : Text}
    {m : Model} (h : firstNamed? models name = some m) :
    firstNamed? (joined models joins) name = some (m.withLinks (m.linksTo joins)) := by
  obtain ⟨place, hplace, hm⟩ := place_of_firstNamed? h
  rw [firstNamed?_eq_at_place, modelPlace?_joined_of_given joins hplace, Option.bind_some,
    getElem?_joined_of_place joins hplace hm]

theorem mem_joinTables_of_firstNamed?_joined {models : List Model} {joins : List JoinEnds}
    {name : Text} {m : Model} (hnone : firstNamed? models name = none)
    (h : firstNamed? (joined models joins) name = some m) : m ∈ joinTablesAfter [] joins := by
  have hmember := mem_of_firstNamed? h
  have hname := name_of_firstNamed? h
  rcases List.mem_append.1 hmember with hlinked | htable
  · have hgiven : name ∈ models.map (·.name) := by
      rw [← map_name_linkedModels models joins]
      exact List.mem_map.2 ⟨m, hlinked, hname⟩
    rw [← firstNamed?_isSome, hnone] at hgiven
    cases hgiven
  · exact htable

/-- A table of a list of pairs is that of one of them, built after the tables of the pairs before
it. -/
theorem exists_split_of_mem_joinTablesAfter {earlier joins : List JoinEnds} {table : Model}
    (h : table ∈ joinTablesAfter earlier joins) :
    ∃ before ends after, joins = before ++ ends :: after ∧
      table = ends.tableAfter (earlier ++ before) := by
  induction joins generalizing earlier with
  | nil => cases h
  | cons ends rest ih =>
    rcases List.mem_cons.1 h with rfl | hrest
    · exact ⟨[], ends, rest, rfl, by rw [List.append_nil]⟩
    · obtain ⟨before, other, after, rfl, htable⟩ := ih hrest
      exact ⟨ends :: before, other, after, rfl, by rw [htable, List.append_assoc]; rfl⟩

theorem exists_of_mem_joinTablesAfter {earlier joins : List JoinEnds} {table : Model}
    (h : table ∈ joinTablesAfter earlier joins) :
    ∃ ends ∈ joins, ∃ prior, table = ends.tableAfter prior := by
  obtain ⟨before, ends, after, rfl, htable⟩ := exists_split_of_mem_joinTablesAfter h
  exact ⟨ends, List.mem_append_right before List.mem_cons_self, _, htable⟩

theorem exists_mem_joinTablesAfter {joins : List JoinEnds} {ends : JoinEnds} (h : ends ∈ joins)
    (earlier : List JoinEnds) : ∃ prior, ends.tableAfter prior ∈ joinTablesAfter earlier joins := by
  induction joins generalizing earlier with
  | nil => cases h
  | cons first rest ih =>
    rcases List.mem_cons.1 h with rfl | hrest
    · exact ⟨earlier, List.mem_cons_self⟩
    · obtain ⟨prior, hprior⟩ := ih hrest (earlier ++ [first])
      exact ⟨prior, List.mem_cons_of_mem _ hprior⟩

theorem isBareList_of_mem_joinTable {earlier joins : List JoinEnds} {table : Model}
    (h : table ∈ joinTablesAfter earlier joins) : ∀ f ∈ table.fields, f.isBareList = false := by
  obtain ⟨ends, -, prior, rfl⟩ := exists_of_mem_joinTablesAfter h
  intro f hf
  simp only [JoinEnds.tableAfter, joinModel, List.mem_cons, List.not_mem_nil, or_false] at hf
  rcases hf with rfl | rfl | rfl | rfl <;> rfl

theorem counterpart?_joinTable {earlier joins : List JoinEnds} {table : Model}
    (h : table ∈ joinTablesAfter earlier joins) (owner : Model) (field : Field) :
    counterpart? owner field table = none := by
  refine List.find?_eq_none.2 ?_
  intro f hf
  simp [isBareList_of_mem_joinTable h f hf]

/-- Links to tables whose names differ from the owner's name change no counterpart. -/
theorem counterpart?_withLinks {owner target : Model} {links : List JoinLink}
    (howner : ∀ link ∈ links, link.table ≠ owner.name) (field : Field) :
    counterpart? owner field (target.withLinks links) = counterpart? owner field target := by
  have hadded : (target.linkFields links).find? (fun f =>
      f.isBareList && f.type == owner.name &&
        !(target.name == owner.name && f.name == field.name) &&
        !relationNamesClash field.relationName f.relationName) = none := by
    refine List.find?_eq_none.2 ?_
    intro f hf
    obtain ⟨link, hlink, htype⟩ := Model.type_of_mem_linkFields hf
    have hne : f.type ≠ owner.name := htype ▸ howner link hlink
    simp [hne]
  unfold counterpart?
  rw [Model.name_withLinks, Model.withLinks, List.find?_append, hadded, Option.or_none]

private theorem modify_append_of_lt {α : Type} {xs : List α} {place : Nat} (f : α → α)
    (h : place < xs.length) (ys : List α) :
    (xs ++ ys).modify place f = xs.modify place f ++ ys := by
  apply List.ext_getElem?
  intro k
  by_cases hk : k < xs.length
  · rw [List.getElem?_modify, List.getElem?_append_left hk,
      List.getElem?_append_left (by rwa [List.length_modify]), List.getElem?_modify]
  · have hne : place ≠ k := by omega
    rw [List.getElem?_modify_ne f _ hne, List.getElem?_append_right (by omega),
      List.getElem?_append_right (by rw [List.length_modify]; omega), List.length_modify]

theorem place_eq_iff {models : List Model} {a b : Text} {i j : Nat}
    (hi : modelPlace? models a = some i) (hj : modelPlace? models b = some j) : i = j ↔ a = b := by
  constructor
  · intro hij
    obtain ⟨ha, hpa, -⟩ := List.findIdx?_eq_some_iff_getElem.1 hi
    obtain ⟨hb, hpb, -⟩ := List.findIdx?_eq_some_iff_getElem.1 hj
    subst hij
    exact (beq_iff_eq.1 hpa).symm.trans (beq_iff_eq.1 hpb)
  · intro hab
    subst hab
    exact Option.some.inj (hi.symm.trans hj)

/-- Linking both ends of a further pair to its table gives the models with all links. -/
theorem linkedModels_concat {models : List Model} {ends : JoinEnds} {i j : Nat}
    (joins : List JoinEnds) (hi : modelPlace? models ends.lesser.name = some i)
    (hj : modelPlace? models ends.greater.name = some j) :
    ((linkedModels models joins).modify i (·.linkedTo ends.table joinColumns.1)).modify j
        (·.linkedTo ends.table joinColumns.2) = linkedModels models (joins ++ [ends]) := by
  apply List.ext_getElem?
  intro k
  simp only [linkedModels, List.getElem?_modify, List.getElem?_mapIdx, Option.map_eq_map,
    Option.map_map]
  cases hm : models[k]? with
  | none => rfl
  | some m =>
    simp only [Option.map_some, Function.comp_apply, Option.some.injEq]
    by_cases hfirst : modelPlace? models m.name = some k
    · have hik : i = k ↔ ends.lesser.name = m.name := place_eq_iff hi hfirst
      have hjk : j = k ↔ ends.greater.name = m.name := place_eq_iff hj hfirst
      simp only [linksAt, if_pos hfirst, Model.linksTo_concat, Model.withLinks_append,
        JoinEnds.links, hik, hjk]
      split <;> split <;> simp [Model.withLinks_cons]
    · -- A model behind the first of its name is at no place that an end has.
      have hplace : ∀ {name place}, modelPlace? models name = some place → place ≠ k := by
        intro name place hplace hk
        subst hk
        obtain ⟨_, hname, -⟩ := List.findIdx?_eq_some_iff_getElem.1 hplace
        obtain ⟨_, hget⟩ := List.getElem?_eq_some_iff.1 hm
        rw [hget] at hname
        exact hfirst (beq_iff_eq.1 hname ▸ hplace)
      simp only [linksAt, if_neg hfirst, if_neg (hplace hi), if_neg (hplace hj)]

theorem joinTablesAfter_concat (earlier joins : List JoinEnds) (ends : JoinEnds) :
    joinTablesAfter earlier (joins ++ [ends]) =
      joinTablesAfter earlier joins ++ [ends.tableAfter (earlier ++ joins)] := by
  induction joins generalizing earlier with
  | nil => simp [joinTablesAfter]
  | cons first rest ih =>
    rw [List.cons_append, joinTablesAfter, ih, joinTablesAfter, List.cons_append,
      List.append_assoc, List.singleton_append]

/-- Adding the table of a further pair gives the models with all tables in place. -/
theorem addJoinTable_joined {models : List Model} {ends : JoinEnds} {i j : Nat}
    (joins : List JoinEnds) (hwithin : ends.Within models)
    (hi : modelPlace? models ends.lesser.name = some i)
    (hj : modelPlace? models ends.greater.name = some j) :
    addJoinTable (joined models joins) i j = joined models (joins ++ [ends]) := by
  have hlesser := getElem?_of_firstNamed? hwithin.lesser hi
  have hgreater := getElem?_of_firstNamed? hwithin.greater hj
  obtain ⟨hilt, -⟩ := List.getElem?_eq_some_iff.1 hlesser
  obtain ⟨hjlt, -⟩ := List.getElem?_eq_some_iff.1 hgreater
  have hbound := length_linkedModels models joins
  unfold addJoinTable
  rw [getElem?_joined_of_place joins hi hlesser, getElem?_joined_of_place joins hj hgreater]
  simp only [Model.name_withLinks]
  change ((joined models joins).modify i (·.linkedTo ends.table joinColumns.1)).modify j
    (·.linkedTo ends.table joinColumns.2) ++ [ends.tableAfter joins] = _
  rw [joined, modify_append_of_lt _ (by omega), modify_append_of_lt _ (by simp; omega),
    linkedModels_concat joins hi hj, joined, joinTablesAfter_concat, List.nil_append,
    List.append_assoc]

end SchemaBook
