import Mathlib.Tactic
import SchemaBook.Schema.JoinTable

/-!
The plan of the join tables of a schema, computed from the given models alone: which pairs of models
are many-to-many, which of them get a table, and what each model and each table looks like when a
number of tables is in place. The scan that adds the tables one by one is not used here; that it
follows the plan is proved in the next module.
-/

namespace SchemaBook

/-- The first model of a name. A relation of that type leads to it. -/
def firstNamed? (models : List Model) (name : Text) : Option Model :=
  models.find? (·.name == name)

/-- A link from a model to a join table, stored in a column of the table. -/
structure JoinLink where
  table : Text
  column : Text
  deriving DecidableEq, Repr

/-- The two ends of a join table, the one with the lesser name first. -/
structure JoinEnds where
  lesser : Model
  greater : Model
  ordered : greater.name.isBefore lesser.name = false
  deriving DecidableEq

namespace JoinEnds

/-- Two models as ends, put in the order of their names. -/
def ofModels (a b : Model) : JoinEnds :=
  if h : b.name.isBefore a.name then ⟨b, a, Text.isBefore_asymm h⟩
  else ⟨a, b, Bool.eq_false_iff.2 h⟩

def table (ends : JoinEnds) : Text := joinName ends.lesser.name ends.greater.name

/-- The links that a model of a name has to the table: two where it is both ends. -/
def links (ends : JoinEnds) (name : Text) : List JoinLink :=
  (if ends.lesser.name = name then [⟨ends.table, joinColumns.1⟩] else []) ++
    if ends.greater.name = name then [⟨ends.table, joinColumns.2⟩] else []

end JoinEnds

namespace Model

/-- The list fields that a model gains from links, each with a name that is free when it is added.
-/
def linkFields (m : Model) : List JoinLink → List Field
  | [] => []
  | link :: rest =>
    joinListField link.table link.column m :: linkFields (m.linkedTo link.table link.column) rest

/-- The model with the list fields of links behind its own fields. -/
def withLinks (m : Model) (links : List JoinLink) : Model :=
  { m with fields := m.fields ++ m.linkFields links }

/-- The links that a model has when it is the first of its name. -/
def linksTo (m : Model) (joins : List JoinEnds) : List JoinLink := joins.flatMap (·.links m.name)

end Model

/-- The pair that a field is half of: the field is a bare list, and the first model of its type has
a counterpart of it. Fields and targets are those of the given models. -/
def joinEnds? (models : List Model) (owner : Model) (field : Field) : Option JoinEnds :=
  if field.isBareList then
    match firstNamed? models owner.name, firstNamed? models field.type with
    | some here, some target =>
      if (counterpart? owner field target).isSome then some (.ofModels here target) else none
    | _, _ => none
  else none

/-- The many-to-many pairs as owners and their fields name them, in order. -/
def manyToMany (models : List Model) : List JoinEnds :=
  models.flatMap fun owner => owner.fields.filterMap (joinEnds? models owner)

def JoinEnds.linked (ends : JoinEnds) (joins : List JoinEnds) : JoinEnds where
  lesser := ends.lesser.withLinks (ends.lesser.linksTo joins)
  greater := ends.greater.withLinks (ends.greater.linksTo joins)
  ordered := ends.ordered

/-- Whether the table of a pair has a name that no model bears. -/
def JoinEnds.isFree (models : List Model) (ends : JoinEnds) : Bool :=
  !(models.map (·.name)).contains ends.table

/-- The pairs that get a table: of those with one table name the first, unless the name is taken. -/
def plannedJoins (models : List Model) : List JoinEnds :=
  (OrderedSet.ofList JoinEnds.table ((manyToMany models).filter (JoinEnds.isFree models))).toList

/-- The links of the model at a place. Only the first model of a name has any. -/
def linksAt (models : List Model) (joins : List JoinEnds) (place : Nat) (m : Model) :
    List JoinLink :=
  if modelPlace? models m.name = some place then m.linksTo joins else []

/-- The given models with their links to the tables that are in place. -/
def linkedModels (models : List Model) (joins : List JoinEnds) : List Model :=
  models.mapIdx fun place m => m.withLinks (linksAt models joins place m)

/-- The table of a pair that comes after others: its ends have their links to these already. -/
def JoinEnds.tableAfter (ends : JoinEnds) (earlier : List JoinEnds) : Model :=
  joinModel (ends.linked earlier).lesser (ends.linked earlier).greater

def joinTablesAfter (earlier : List JoinEnds) : List JoinEnds → List Model
  | [] => []
  | ends :: rest => ends.tableAfter earlier :: joinTablesAfter (earlier ++ [ends]) rest

/-- The models with the tables of a list of pairs in place. -/
def joined (models : List Model) (joins : List JoinEnds) : List Model :=
  linkedModels models joins ++ joinTablesAfter [] joins

theorem joinName_comm (a b : Text) : joinName a b = joinName b a := by
  have hordered : orderedNames a b = orderedNames b a := by
    unfold orderedNames
    cases hab : a.isBefore b with
    | true => simp [Text.isBefore_asymm hab]
    | false =>
      cases hba : b.isBefore a with
      | true => simp
      | false => simp [Text.eq_of_isBefore_eq_false hab hba]
  simp only [joinName, hordered]

namespace JoinEnds

theorem ofModels_of_isBefore {a b : Model} (h : b.name.isBefore a.name = true) :
    ofModels a b = ⟨b, a, Text.isBefore_asymm h⟩ := dif_pos h

theorem ofModels_of_not_isBefore {a b : Model} (h : ¬b.name.isBefore a.name = true) :
    ofModels a b = ⟨a, b, Bool.eq_false_iff.2 h⟩ := dif_neg h

@[simp]
theorem table_ofModels (a b : Model) : (ofModels a b).table = joinName a.name b.name := by
  unfold ofModels
  split
  · exact joinName_comm b.name a.name
  · rfl

theorem ends_ofModels (a b : Model) :
    (ofModels a b).lesser = b ∧ (ofModels a b).greater = a ∨
      (ofModels a b).lesser = a ∧ (ofModels a b).greater = b := by
  unfold ofModels
  split
  · exact .inl ⟨rfl, rfl⟩
  · exact .inr ⟨rfl, rfl⟩

theorem isFree_iff {models : List Model} {ends : JoinEnds} :
    ends.isFree models = true ↔ ends.table ∉ models.map (·.name) := by
  simp [isFree]

end JoinEnds

namespace Model

@[simp]
theorem name_withLinks (m : Model) (links : List JoinLink) : (m.withLinks links).name = m.name :=
  rfl

@[simp]
theorem documentation_withLinks (m : Model) (links : List JoinLink) :
    (m.withLinks links).documentation = m.documentation := rfl

@[simp]
theorem storageName_withLinks (m : Model) (links : List JoinLink) :
    (m.withLinks links).storageName = m.storageName := rfl

@[simp]
theorem withLinks_nil (m : Model) : m.withLinks [] = m := by
  simp [withLinks, linkFields]

theorem withLinks_cons (m : Model) (link : JoinLink) (rest : List JoinLink) :
    m.withLinks (link :: rest) = (m.linkedTo link.table link.column).withLinks rest := by
  simp [withLinks, linkFields, linkedTo]

theorem withLinks_append (m : Model) (links others : List JoinLink) :
    m.withLinks (links ++ others) = (m.withLinks links).withLinks others := by
  induction links generalizing m with
  | nil => simp
  | cons link rest ih => rw [List.cons_append, withLinks_cons, withLinks_cons, ih]

theorem isBareList_of_mem_linkFields {m : Model} {links : List JoinLink} {f : Field}
    (h : f ∈ m.linkFields links) : f.isBareList = true := by
  induction links generalizing m with
  | nil => cases h
  | cons link rest ih =>
    rcases List.mem_cons.1 h with rfl | hrest
    · rfl
    · exact ih hrest

theorem isList_of_mem_linkFields {m : Model} {links : List JoinLink} {f : Field}
    (h : f ∈ m.linkFields links) : f.isRelation = true ∧ f.isList = true := by
  have hbare := isBareList_of_mem_linkFields h
  simp only [Field.isBareList, Bool.and_eq_true] at hbare
  exact ⟨hbare.1.1.1, hbare.1.1.2⟩

/-- The fields that a model gains lead to the tables of its links, in order, under the relation
names of their columns. -/
theorem map_target_linkFields (m : Model) (links : List JoinLink) :
    (m.linkFields links).map (fun f => (f.type, f.relationName)) =
      links.map fun link => (link.table, some (joinRelationName link.table link.column)) := by
  induction links generalizing m with
  | nil => rfl
  | cons link rest ih =>
    rw [linkFields, List.map_cons, List.map_cons, ih]
    rfl

theorem type_of_mem_linkFields {m : Model} {links : List JoinLink} {f : Field}
    (h : f ∈ m.linkFields links) : ∃ link ∈ links, f.type = link.table := by
  have htarget := List.mem_map_of_mem (f := fun f : Field => (f.type, f.relationName)) h
  rw [map_target_linkFields] at htarget
  obtain ⟨link, hlink, heq⟩ := List.mem_map.1 htarget
  exact ⟨link, hlink, (congrArg Prod.fst heq).symm⟩

theorem exists_linkField {m : Model} {links : List JoinLink} {link : JoinLink}
    (h : link ∈ links) : ∃ f ∈ m.linkFields links, f.type = link.table := by
  have htarget := List.mem_map_of_mem
    (f := fun link : JoinLink => (link.table, some (joinRelationName link.table link.column))) h
  rw [← map_target_linkFields m] at htarget
  obtain ⟨f, hf, heq⟩ := List.mem_map.1 htarget
  exact ⟨f, hf, congrArg Prod.fst heq⟩

theorem linksTo_concat (m : Model) (joins : List JoinEnds) (ends : JoinEnds) :
    m.linksTo (joins ++ [ends]) = m.linksTo joins ++ ends.links m.name := by
  simp [linksTo]

theorem table_mem_of_mem_linksTo {m : Model} {joins : List JoinEnds} {link : JoinLink}
    (h : link ∈ m.linksTo joins) : link.table ∈ joins.map JoinEnds.table := by
  obtain ⟨ends, hends, hlink⟩ := List.mem_flatMap.1 h
  refine List.mem_map.2 ⟨ends, hends, ?_⟩
  simp only [JoinEnds.links, List.mem_append] at hlink
  rcases hlink with hlink | hlink
  · split at hlink <;> simp_all
  · split at hlink <;> simp_all

end Model

theorem type_mem_of_mem_linkFields {models : List Model} {joins : List JoinEnds} {place : Nat}
    {m : Model} {f : Field} (h : f ∈ m.linkFields (linksAt models joins place m)) :
    f.type ∈ joins.map JoinEnds.table := by
  obtain ⟨link, hlink, htype⟩ := Model.type_of_mem_linkFields h
  unfold linksAt at hlink
  split at hlink
  · rw [htype]
    exact Model.table_mem_of_mem_linksTo hlink
  · cases hlink

namespace JoinEnds

@[simp]
theorem name_lesser_linked (ends : JoinEnds) (joins : List JoinEnds) :
    (ends.linked joins).lesser.name = ends.lesser.name := rfl

@[simp]
theorem name_greater_linked (ends : JoinEnds) (joins : List JoinEnds) :
    (ends.linked joins).greater.name = ends.greater.name := rfl

@[simp]
theorem table_linked (ends : JoinEnds) (joins : List JoinEnds) :
    (ends.linked joins).table = ends.table := rfl

theorem linked_ofModels (a b : Model) (joins : List JoinEnds) :
    (ofModels a b).linked joins =
      ofModels (a.withLinks (a.linksTo joins)) (b.withLinks (b.linksTo joins)) := by
  by_cases h : b.name.isBefore a.name = true
  · rw [ofModels_of_isBefore h, ofModels_of_isBefore (by exact h)]
    rfl
  · rw [ofModels_of_not_isBefore h, ofModels_of_not_isBefore (by exact h)]
    rfl

end JoinEnds

/-- The names of the planned tables: those of the many-to-many pairs, without the names that models
bear, each once. -/
theorem map_table_plannedJoins (models : List Model) :
    (plannedJoins models).map JoinEnds.table =
      firstOccurrences (((manyToMany models).map JoinEnds.table).filter
        fun name => !(models.map (·.name)).contains name) := by
  rw [plannedJoins, OrderedSet.keys_ofList, List.filter_map]
  rfl

theorem nodup_table_plannedJoins (models : List Model) :
    ((plannedJoins models).map JoinEnds.table).Nodup :=
  OrderedSet.nodup_ofList _

theorem mem_manyToMany_of_planned {models : List Model} {ends : JoinEnds}
    (h : ends ∈ plannedJoins models) : ends ∈ manyToMany models ∧ ends.isFree models = true :=
  List.mem_filter.1 (OrderedSet.mem_of_mem_ofList h)

theorem table_notMem_of_planned {models : List Model} {name : Text}
    (h : name ∈ (plannedJoins models).map JoinEnds.table) : name ∉ models.map (·.name) := by
  obtain ⟨ends, hends, rfl⟩ := List.mem_map.1 h
  exact JoinEnds.isFree_iff.1 (mem_manyToMany_of_planned hends).2

theorem table_ne_name_of_planned {models : List Model} {ends : JoinEnds}
    (h : ends ∈ plannedJoins models) {m : Model} (hm : m ∈ models) : ends.table ≠ m.name := by
  intro heq
  exact table_notMem_of_planned (List.mem_map_of_mem h) (List.mem_map.2 ⟨m, hm, heq.symm⟩)

/-- A table name that no model bears leads in the plan to the first pair of that name. -/
theorem find?_plannedJoins {models : List Model} {name : Text}
    (hfree : name ∉ models.map (·.name)) :
    (plannedJoins models).find? (fun ends => ends.table = name) =
      (manyToMany models).find? fun ends => ends.table = name := by
  have hfind := OrderedSet.find?_ofList JoinEnds.table
    ((manyToMany models).filter (JoinEnds.isFree models)) name
  rw [List.find?_filter] at hfind
  refine hfind.trans (congrArg (List.find? · (manyToMany models)) ?_)
  funext ends
  by_cases hname : ends.table = name
  · simp [hname, JoinEnds.isFree_iff.2 (hname ▸ hfree)]
  · simp [hname]

end SchemaBook
