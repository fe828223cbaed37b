import SchemaBook.Proofs.JoinTable.Names
import SchemaBook.Proofs.JoinTable.Order
import SchemaBook.Proofs.Warnings

/-!
Join tables and their ends find each other. Where every relation leads to a model of the list, none
of a model's own relations leads to a table, so only list fields that it has gained can be opposite
to a relation of a table; of these the relation name picks one. Main statement: a relation of a
table and a list field of the model that it leads to are opposite to each other, and the two
relations of a table have two such fields, even where they lead to one model.
-/

namespace SchemaBook

/-- What a relation of the target has to be for it to be the other end of an owner's field. -/
def IsOpposite (owner : Model) (field : Field) (target : Model) (f : Field) : Prop :=
  ¬(target.name = owner.name ∧ f.name = field.name) ∧ f.relationName = field.relationName ∧
    f.type = owner.name

instance (owner : Model) (field : Field) (target : Model) (f : Field) :
    Decidable (IsOpposite owner field target f) :=
  inferInstanceAs (Decidable (¬(target.name = owner.name ∧ f.name = field.name) ∧
    f.relationName = field.relationName ∧ f.type = owner.name))

/-- Where names are distinct, the other end is looked for on the model that the field leads to. -/
theorem oppositeField?_of_mem {models : List Model} (hnames : (models.map (·.name)).Nodup)
    {target : Model} (htarget : target ∈ models) (owner : Model) {field : Field}
    (htype : field.type = target.name) :
    oppositeField? models owner field =
      target.relations.find? fun f => decide (IsOpposite owner field target f) := by
  rw [oppositeField?, htype, filter_name_of_mem hnames htarget, List.findSome?_cons,
    List.findSome?_nil]
  have htest : ∀ f : Field, (!(target.name == owner.name && f.name == field.name) &&
      f.relationName == field.relationName && f.type == owner.name) =
        decide (IsOpposite owner field target f) := by
    intro f
    rw [Bool.eq_iff_iff, decide_eq_true_iff, IsOpposite, not_and_or]
    simp [and_assoc]
  simp only [htest]
  cases target.relations.find? fun f => decide (IsOpposite owner field target f) <;> rfl

private theorem find?_eq_some_of_only {α : Type} {p : α → Bool} {xs : List α} {a : α} (ha : a ∈ xs)
    (hp : p a = true) (honly : ∀ b ∈ xs, p b = true → b = a) : xs.find? p = some a := by
  obtain ⟨b, hb⟩ := Option.isSome_iff_exists.1 (List.find?_isSome.2 ⟨a, ha, hp⟩)
  rw [hb, honly b (List.mem_of_find?_eq_some hb) (List.find?_some hb)]

/-- If a target has only one relation that can be the other end of a field, it is found. -/
theorem oppositeField?_eq_some_of_only {models : List Model} (hnames : (models.map (·.name)).Nodup)
    {owner target : Model} (htarget : target ∈ models) {field f : Field}
    (htype : field.type = target.name) (hf : f ∈ target.relations)
    (hopposite : IsOpposite owner field target f)
    (honly : ∀ g ∈ target.relations, IsOpposite owner field target g → g = f) :
    oppositeField? models owner field = some f := by
  rw [oppositeField?_of_mem hnames htarget owner htype]
  exact find?_eq_some_of_only hf (decide_eq_true hopposite) fun g hg hmatch =>
    honly g hg (of_decide_eq_true hmatch)

theorem joinRelationName_injective (table : Text) :
    Function.Injective (joinRelationName table) := by
  intro column other h
  exact List.append_cancel_left h

namespace JoinEnds

theorem table_of_mem_links {ends : JoinEnds} {name : Text} {link : JoinLink}
    (h : link ∈ ends.links name) : link.table = ends.table := by
  rcases List.mem_append.1 h with h | h
  · split at h
    · rw [List.mem_singleton.1 h]
    · cases h
  · split at h
    · rw [List.mem_singleton.1 h]
    · cases h

theorem nodup_links (ends : JoinEnds) (name : Text) : (ends.links name).Nodup := by
  have hcolumns : joinColumns.1 ≠ joinColumns.2 := by decide
  unfold links
  split <;> split <;> simp [hcolumns]

end JoinEnds

/-- A model has at most one link to a column of a table. -/
theorem nodup_linksTo_plannedJoins (models : List Model) (m : Model) :
    (m.linksTo (plannedJoins models)).Nodup := by
  have htables := nodup_table_plannedJoins models
  rw [List.Nodup, List.pairwise_map] at htables
  refine List.nodup_flatMap.2 ⟨fun ends _ => ends.nodup_links m.name, htables.imp ?_⟩
  intro ends others hne link hlink hother
  rw [← JoinEnds.table_of_mem_links hlink, ← JoinEnds.table_of_mem_links hother] at hne
  exact hne rfl

/-- No two of the fields that a model gains share both the table and the relation name. -/
theorem nodup_target_linkFields (m : Model) {links : List JoinLink} (h : links.Nodup) :
    ((m.linkFields links).map fun f => (f.type, f.relationName)).Nodup := by
  rw [Model.map_target_linkFields]
  refine h.map ?_
  rintro ⟨table, column⟩ ⟨other, otherColumn⟩ heq
  obtain ⟨htable, hname⟩ := Prod.mk.inj heq
  obtain rfl : table = other := htable
  obtain rfl : column = otherColumn := joinRelationName_injective table (Option.some.inj hname)
  rfl

/-- For a link of a model there is one list field among its relations, the one that it has gained
for it: its own relations lead to given models. -/
theorem exists_backField {models : List Model} (hresolved : Resolved models) {m : Model}
    (hm : m ∈ models) {link : JoinLink} (hlink : link ∈ m.linksTo (plannedJoins models)) :
    ∃ f ∈ m.linkFields (m.linksTo (plannedJoins models)), f.type = link.table ∧
      f.relationName = some (joinRelationName link.table link.column) ∧
        ∀ g ∈ (m.withLinks (m.linksTo (plannedJoins models))).relations, g.type = link.table →
          g.relationName = some (joinRelationName link.table link.column) → g = f := by
  have htarget := List.mem_map_of_mem
    (f := fun link : JoinLink => (link.table, some (joinRelationName link.table link.column))) hlink
  rw [← Model.map_target_linkFields m] at htarget
  obtain ⟨f, hf, heq⟩ := List.mem_map.1 htarget
  obtain ⟨htype, hname⟩ := Prod.mk.inj heq
  refine ⟨f, hf, htype, hname, ?_⟩
  intro g hg hgType hgName
  obtain ⟨hgField, hgRelation⟩ := List.mem_filter.1 hg
  rcases List.mem_append.1 hgField with hown | hgained
  · have hgiven := hresolved.targets m hm g (List.mem_filter.2 ⟨hown, hgRelation⟩)
    rw [hgType] at hgiven
    exact absurd hgiven (table_notMem_of_planned (Model.table_mem_of_mem_linksTo hlink))
  · have hnodup := nodup_target_linkFields m (nodup_linksTo_plannedJoins models m)
    refine List.inj_on_of_nodup_map hnodup hgained hf ?_
    rw [hgType, hgName, htype, hname]

/-- A relation of a table is stored for a link of the end that it leads to. -/
theorem exists_link_of_mem_relations {ends : JoinEnds} {prior : List JoinEnds} {relation : Field}
    (h : relation ∈ (ends.tableAfter prior).relations) :
    ∃ m ∈ [ends.lesser, ends.greater], ∃ link ∈ ends.links m.name, relation.type = m.name ∧
      relation.relationName = some (joinRelationName link.table link.column) := by
  change relation ∈ [joinRelation ends.table joinRelations.1 joinColumns.1 _,
    joinRelation ends.table joinRelations.2 joinColumns.2 _] at h
  rcases List.mem_pair.1 h with rfl | rfl
  · refine ⟨ends.lesser, List.mem_cons_self, ⟨ends.table, joinColumns.1⟩, ?_, rfl, rfl⟩
    simp [JoinEnds.links]
  · refine ⟨ends.greater, List.mem_cons_of_mem _ List.mem_cons_self,
      ⟨ends.table, joinColumns.2⟩, ?_, rfl, rfl⟩
    simp [JoinEnds.links]

/-- The relation name tells the two relations of a table apart. -/
theorem nodup_relationName_tableAfter (ends : JoinEnds) (prior : List JoinEnds) :
    ((ends.tableAfter prior).relations.map (·.relationName)).Nodup := by
  have hcolumns : joinColumns.1 ≠ joinColumns.2 := by decide
  change ([some (joinRelationName ends.table joinColumns.1),
    some (joinRelationName ends.table joinColumns.2)] : List (Option Text)).Nodup
  simp [(joinRelationName_injective ends.table).ne hcolumns]

/-- A field that a given model has gained, behind its own. -/
def IsGained (models : List Model) (endpoint : Model) (f : Field) : Prop :=
  ∃ (place : Nat) (m : Model) (added : List Field), models[place]? = some m ∧
    (withJoinTables models)[place]? = some endpoint ∧
      endpoint = { m with fields := m.fields ++ added } ∧ f ∈ added

/-- A relation of a join table and a list field of the model that it leads to, each opposite to the
other among the models with all join tables. -/
structure LinkedBothWays (models : List Model) (table : Model) (relation : Field)
    (endpoint : Model) (listField : Field) : Prop where
  forth : oppositeField? (withJoinTables models) table relation = some listField
  back : oppositeField? (withJoinTables models) endpoint listField = some relation
  isList : listField.isRelation = true ∧ listField.isList = true
  type : listField.type = table.name
  relationName : listField.relationName = relation.relationName
  gained : IsGained models endpoint listField

theorem firstNamed?_of_mem_ends {models : List Model} {ends : JoinEnds}
    (h : ends ∈ plannedJoins models) {m : Model} (hm : m ∈ [ends.lesser, ends.greater]) :
    firstNamed? models m.name = some m := by
  have hwithin := JoinEnds.within_of_mem_plannedJoins h
  rcases List.mem_pair.1 hm with rfl | rfl
  · exact hwithin.lesser
  · exact hwithin.greater

/-- In a list without errors and warnings, a relation of a planned table has a field opposite to it,
and the other way round. -/
theorem exists_linkedBothWays {models : List Model} (hgiven : Unambiguous models)
    (hresolved : Resolved models) {ends : JoinEnds} (hends : ends ∈ plannedJoins models)
    {prior : List JoinEnds} (htable : ends.tableAfter prior ∈ withJoinTables models)
    {relation : Field} (hrelation : relation ∈ (ends.tableAfter prior).relations) :
    ∃ endpoint ∈ withJoinTables models, endpoint.name = relation.type ∧
      ∃ listField, LinkedBothWays models (ends.tableAfter prior) relation endpoint listField := by
  have hnames := nodup_name_withJoinTables hgiven.names
  obtain ⟨m, hend, link, hlink, htype, hname⟩ := exists_link_of_mem_relations hrelation
  have hfirst := firstNamed?_of_mem_ends hends hend
  have hm := mem_of_firstNamed? hfirst
  have hne := table_ne_name_of_planned hends hm
  obtain ⟨place, hat, hlinked⟩ := exists_place_withLinks hfirst
  have hmember := List.mem_of_getElem? hlinked
  obtain ⟨f, hf, hfType, hfName, honly⟩ :=
    exists_backField hresolved hm (List.mem_flatMap.2 ⟨ends, hends, hlink⟩)
  obtain ⟨hfRelation, hfList⟩ := Model.isList_of_mem_linkFields hf
  -- From here on the link is only seen through the table and the relation name.
  rw [← hname] at hfName honly
  rw [JoinEnds.table_of_mem_links hlink] at hfType honly
  refine ⟨_, hmember, htype.symm, f, ?_⟩
  constructor
  case forth =>
    refine oppositeField?_eq_some_of_only hnames hmember htype
      (List.mem_filter.2 ⟨List.mem_append_right _ hf, hfRelation⟩)
      ⟨fun h => hne h.1.symm, hfName, hfType⟩ ?_
    rintro g hg ⟨-, hgName, hgType⟩
    exact honly g hg hgType hgName
  case back =>
    refine oppositeField?_eq_some_of_only hnames htable hfType hrelation
      ⟨fun h => hne h.1, hfName.symm, htype⟩ ?_
    rintro g hg ⟨-, hgName, -⟩
    exact List.inj_on_of_nodup_map (nodup_relationName_tableAfter ends prior) hg hrelation
      (hgName.trans hfName)
  case isList => exact ⟨hfRelation, hfList⟩
  case type => exact hfType
  case relationName => exact hfName
  case gained => exact ⟨place, m, _, hat, hlinked, rfl, hf⟩

theorem LinkedBothWays.mem_fields {models : List Model} {table endpoint : Model}
    {relation listField : Field} (h : LinkedBothWays models table relation endpoint listField) :
    endpoint ∈ withJoinTables models ∧ listField ∈ endpoint.fields := by
  obtain ⟨place, m, added, -, hat, rfl, hadded⟩ := h.gained
  exact ⟨List.mem_of_getElem? hat, List.mem_append_right _ hadded⟩

/-- In a list without errors and warnings every added table has two relations, to models of the
result, and from each of them it finds a list field that the model has gained, and from there the
relation again. The fields found for the two relations differ, and bear different names where both
relations lead to one model. -/
theorem joinTables_linked_both_ways {models : List Model} (herrors : errorMessages models = [])
    (hwarnings : warningMessages models = []) {table : Model}
    (htable : table ∈ addedTables models) :
    table.relations.map (·.name) = [joinRelations.1, joinRelations.2] ∧
      (∀ relation ∈ table.relations,
        (∃ endpoint ∈ withJoinTables models, endpoint.name = relation.type) ∧
          ∀ endpoint ∈ withJoinTables models, endpoint.name = relation.type →
            ∃ listField, LinkedBothWays models table relation endpoint listField) ∧
      ∀ relation ∈ table.relations, ∀ other ∈ table.relations, relation.name ≠ other.name →
        ∀ endpoint otherEnd f g, LinkedBothWays models table relation endpoint f →
          LinkedBothWays models table other otherEnd g →
            f ≠ g ∧ (endpoint = otherEnd → f.name ≠ g.name) := by
  have hgiven := (errorMessages_eq_nil_iff models).1 herrors
  have hresolved := (warningMessages_eq_nil_iff models).1 hwarnings
  have hmember : table ∈ withJoinTables models := List.mem_of_mem_drop htable
  obtain ⟨ends, hends, prior, rfl⟩ := exists_of_mem_addedTables htable
  have hnames := nodup_name_withJoinTables hgiven.names
  have hfieldNames := nodup_fieldNames_withJoinTables hgiven.fieldNames
  refine ⟨rfl, ?_, ?_⟩
  · intro relation hrelation
    obtain ⟨found, hfound, hname, listField, hlinked⟩ :=
      exists_linkedBothWays hgiven hresolved hends hmember hrelation
    refine ⟨⟨found, hfound, hname⟩, ?_⟩
    intro endpoint hendpoint htype
    have hsame : endpoint = found :=
      List.inj_on_of_nodup_map hnames hendpoint hfound (htype.trans hname.symm)
    exact ⟨listField, hsame ▸ hlinked⟩
  · intro relation hrelation other hother hne endpoint otherEnd f g hf hg
    have hfields : f ≠ g := by
      rintro rfl
      have hrelationNames : relation.relationName = other.relationName :=
        hf.relationName.symm.trans hg.relationName
      have hsame : relation = other := List.inj_on_of_nodup_map
        (nodup_relationName_tableAfter ends prior) hrelation hother hrelationNames
      exact hne (congrArg Field.name hsame)
    refine ⟨hfields, ?_⟩
    rintro rfl hsameName
    exact hfields (List.inj_on_of_nodup_map (hfieldNames endpoint hf.mem_fields.1)
      hf.mem_fields.2 hg.mem_fields.2 hsameName)

/-- A model that lists itself twice, under the names that its list fields would have first. -/
def selfListing : List Model :=
  [{ name := "A", fields := [{ bareListTo "A" with name := "_AToA" },
      { bareListTo "A" with name := "_AToA_2" }] }]

/-- Both relations of its table lead to the model itself, and have a list field of their own. -/
theorem selfListing_linked_both_ways :
    errorMessages selfListing = [] ∧ warningMessages selfListing = [] ∧
      ∃ table ∈ addedTables selfListing, ∃ endpoint ∈ withJoinTables selfListing, ∃ x y f g,
        x.name = joinRelations.1 ∧ y.name = joinRelations.2 ∧
          LinkedBothWays selfListing table x endpoint f ∧
          LinkedBothWays selfListing table y endpoint g ∧ f.name ≠ g.name := by
  have herrors : errorMessages selfListing = [] :=
    (errorMessages_eq_nil_iff _).2 ⟨by decide, by decide, by decide⟩
  have hwarnings : warningMessages selfListing = [] :=
    (warningMessages_eq_nil_iff _).2 ⟨by decide, by decide⟩
  let ends : JoinEnds := ⟨selfListing.head (by decide), selfListing.head (by decide), by decide⟩
  have htable : ends.tableAfter [] ∈ addedTables selfListing := by decide
  obtain ⟨-, hlinked, hapart⟩ := joinTables_linked_both_ways herrors hwarnings htable
  let x := joinRelation ends.table joinRelations.1 joinColumns.1 ends.lesser
  let y := joinRelation ends.table joinRelations.2 joinColumns.2 ends.greater
  have hx : x ∈ (ends.tableAfter []).relations := List.mem_cons_self
  have hy : y ∈ (ends.tableAfter []).relations := List.mem_cons_of_mem _ List.mem_cons_self
  obtain ⟨⟨endpoint, hendpoint, hname⟩, hall⟩ := hlinked x hx
  obtain ⟨f, hf⟩ := hall endpoint hendpoint hname
  obtain ⟨g, hg⟩ := (hlinked y hy).2 endpoint hendpoint hname
  have hne := (hapart x hx y hy (by decide) endpoint endpoint f g hf hg).2 rfl
  exact ⟨herrors, hwarnings, _, htable, endpoint, hendpoint, x, y, f, g, rfl, rfl, hf, hg, hne⟩

end SchemaBook
