import SchemaBook.Proofs.JoinTable.Opposite

/-!
The columns of a join table and the columns that they refer to. A table is built when its ends have
their links to the tables before it and lack those to the tables behind it, so a key is looked up
among fewer fields than an end has in the result. What an end gains changes nothing but in one way:
where it declares no key, a field that happens to have the assumed name is referred to, whatever its
type. Main statement: a join column has the type of the field that it refers to exactly when the end
declares a key, or the field does not have the assumed name, or it has the assumed type.
-/

namespace SchemaBook

/-- Whether a model has a field of its key: one that is marked, or one that its compound key names.
-/
def Model.DeclaresKey (m : Model) : Prop := ∃ f ∈ m.fields, f.isId = true ∨ f.name ∈ m.primaryKey

instance (m : Model) : Decidable m.DeclaresKey :=
  inferInstanceAs (Decidable (∃ f ∈ m.fields, f.isId = true ∨ f.name ∈ m.primaryKey))

namespace Model

theorem mem_of_keyField? {m : Model} {f : Field} (h : m.keyField? = some f) :
    f ∈ m.fields ∧ (f.isId = true ∨ f.name ∈ m.primaryKey) := by
  rcases Option.or_eq_some_iff.1 h with hmarked | ⟨-, hmember⟩
  · exact ⟨List.mem_of_find?_eq_some hmarked, .inl (List.find?_some hmarked)⟩
  · obtain ⟨name, hname, hfield⟩ := List.exists_of_findSome?_eq_some hmember
    have hsame := List.find?_some hfield
    rw [beq_iff_eq] at hsame
    exact ⟨List.mem_of_find?_eq_some hfield, .inr (hsame ▸ hname)⟩

/-- A key is found exactly where one is declared. -/
theorem keyField?_isSome_iff {m : Model} : m.keyField?.isSome = true ↔ m.DeclaresKey := by
  constructor
  · intro h
    obtain ⟨f, hf⟩ := Option.isSome_iff_exists.1 h
    exact ⟨f, mem_of_keyField? hf⟩
  · rintro ⟨f, hf, hmarked | hmember⟩
    · have hfound : (m.fields.find? (·.isId)).isSome = true := List.find?_isSome.2 ⟨f, hf, hmarked⟩
      rw [keyField?, Option.isSome_or, hfound, Bool.true_or]
    · have hfound : (m.primaryKey.findSome? m.field?).isSome = true := by
        refine List.findSome?_isSome_iff.2 ⟨f.name, hmember, ?_⟩
        exact List.find?_isSome.2 ⟨f, hf, beq_self_eq_true f.name⟩
      rw [keyField?, Option.isSome_or, hfound, Bool.or_true]

end Model

theorem head?_freshName {base : Text} (h : base ≠ []) (used : List Text) :
    (freshName base used).head? = base.head? := by
  obtain ⟨k, -, hname, -⟩ := freshName_eq_first_free base used
  rw [hname]
  cases k with
  | zero => rfl
  | succ k => rw [nameCandidate, List.append_assoc, List.head?_append_of_ne_nil _ h]

/-- The fields that a model gains have names that start as the table names do. -/
theorem Model.head?_name_of_mem_linkFields {m : Model} {links : List JoinLink} {start : CodePoint}
    (hlinks : ∀ link ∈ links, link.table.head? = some start) {f : Field}
    (h : f ∈ m.linkFields links) : f.name.head? = some start := by
  induction links generalizing m with
  | nil => cases h
  | cons link rest ih =>
    rcases List.mem_cons.1 h with rfl | hrest
    · have hhead := hlinks link List.mem_cons_self
      have hne : link.table ≠ [] := by
        intro hnil
        rw [hnil] at hhead
        cases hhead
      exact (head?_freshName hne _).trans hhead
    · exact ih (fun other hother => hlinks other (List.mem_cons_of_mem link hother)) hrest

/-- No field that a model gains has the name that is assumed for a key. -/
theorem Model.name_ne_assumedKeyName {m : Model} {joins : List JoinEnds} {f : Field}
    (h : f ∈ m.linkFields (m.linksTo joins)) : f.name ≠ assumedKeyName := by
  have hhead : f.name.head? = some (.char '_') := by
    refine head?_name_of_mem_linkFields ?_ h
    intro link hlink
    obtain ⟨ends, -, htable⟩ := List.mem_map.1 (table_mem_of_mem_linksTo hlink)
    rw [← htable]
    rfl
  intro heq
  rw [heq] at hhead
  exact absurd hhead (by decide)

theorem Model.DeclaresKey.withLinks {m : Model} (h : m.DeclaresKey) (links : List JoinLink) :
    (m.withLinks links).DeclaresKey := by
  obtain ⟨f, hf, hkey⟩ := h
  exact ⟨f, List.mem_append_left _ hf, hkey⟩

/-- A key of the assumed name is declared by the model as it is given. -/
theorem Model.declaresKey_of_name_eq {m : Model} {joins : List JoinEnds} {k : Field}
    (hkey : (m.withLinks (m.linksTo joins)).keyField? = some k)
    (hname : k.name = assumedKeyName) : m.DeclaresKey := by
  obtain ⟨hmem, hdeclared⟩ := mem_of_keyField? hkey
  rcases List.mem_append.1 hmem with hown | hgained
  · exact ⟨k, hown, hdeclared⟩
  · exact absurd hname (name_ne_assumedKeyName hgained)

/-- What a model with some of its links has, it has with more of them. -/
theorem Model.mem_fields_withLinks_append {m : Model} {before after : List JoinEnds} {f : Field}
    (h : f ∈ (m.withLinks (m.linksTo before)).fields) :
    f ∈ (m.withLinks (m.linksTo (before ++ after))).fields := by
  rw [linksTo, List.flatMap_append, withLinks_append]
  exact List.mem_append_left _ h

/-- A model is referred to by its key column when it has its links to some of the tables only. A
field of that name, among those that it has with all links, has the type of the column but for a
field of the assumed name where no key is declared. -/
theorem Model.keyColumn_type_iff {m : Model} {before after : List JoinEnds}
    (hfields : ((m.withLinks (m.linksTo (before ++ after))).fields.map (·.name)).Nodup) {f : Field}
    (hf : f ∈ (m.withLinks (m.linksTo (before ++ after))).fields)
    (hname : f.name = (m.withLinks (m.linksTo before)).keyColumn.1) :
    (m.withLinks (m.linksTo before)).keyColumn.2 = f.type ↔
      m.DeclaresKey ∨ f.name ≠ assumedKeyName ∨ f.type = assumedKeyType := by
  cases hkey : (m.withLinks (m.linksTo before)).keyField? with
  | none =>
    have hnone : ¬m.DeclaresKey := by
      intro hdeclared
      have hsome := keyField?_isSome_iff.2 (hdeclared.withLinks (m.linksTo before))
      rw [hkey] at hsome
      cases hsome
    simp only [keyColumn, hkey] at hname ⊢
    simp only [hnone, hname, ne_eq, not_true_eq_false, false_or]
    exact eq_comm
  | some k =>
    have hk : k ∈ (m.withLinks (m.linksTo (before ++ after))).fields :=
      mem_fields_withLinks_append (mem_of_keyField? hkey).1
    simp only [keyColumn, hkey] at hname ⊢
    obtain rfl := List.inj_on_of_nodup_map hfields hf hk hname
    simp only [true_iff]
    by_cases hassumed : f.name = assumedKeyName
    · exact .inl (declaresKey_of_name_eq hkey hassumed)
    · exact .inr (.inl hassumed)

/-- A relation of a table and the column that it is stored in are made for one end, of its key. -/
theorem JoinEnds.exists_key_of_mem_tableAfter {ends : JoinEnds} {prior : List JoinEnds}
    {relation column : Field} (hrelation : relation ∈ (ends.tableAfter prior).relations)
    (hcolumn : column ∈ (ends.tableAfter prior).columns)
    (hstored : relation.localColumns = [column.name]) :
    ∃ m ∈ [ends.lesser, ends.greater], relation.type = m.name ∧
      relation.foreignColumns = [(m.withLinks (m.linksTo prior)).keyColumn.1] ∧
        column.type = (m.withLinks (m.linksTo prior)).keyColumn.2 := by
  have happart : joinColumns.1 ≠ joinColumns.2 := by decide
  change relation ∈ [joinRelation ends.table joinRelations.1 joinColumns.1 _,
    joinRelation ends.table joinRelations.2 joinColumns.2 _] at hrelation
  change column ∈ [joinColumn joinColumns.1 _, joinColumn joinColumns.2 _] at hcolumn
  rcases List.mem_pair.1 hrelation with rfl | rfl <;> rcases List.mem_pair.1 hcolumn with rfl | rfl
  · exact ⟨ends.lesser, List.mem_cons_self, rfl, rfl, rfl⟩
  · exact absurd (List.singleton_inj.1 hstored) happart
  · exact absurd (List.singleton_inj.1 hstored).symm happart
  · exact ⟨ends.greater, List.mem_cons_of_mem _ List.mem_cons_self, rfl, rfl, rfl⟩

/-- Where model and field names are distinct, every added table has a column for each of its two
relations. What the relation refers to in the model that it leads to has the type of the column
exactly when that model was given with a key, or its name is not the assumed one, or its type is
the assumed one. -/
theorem joinColumn_type_iff {models : List Model} (hnames : (models.map (·.name)).Nodup)
    (hfields : ∀ m ∈ models, (m.fields.map (·.name)).Nodup) {table : Model}
    (htable : table ∈ addedTables models) :
    table.relations.map (fun r => (r.name, r.localColumns)) =
        [(joinRelations.1, [joinColumns.1]), (joinRelations.2, [joinColumns.2])] ∧
      table.columns.map (·.name) = [joinColumns.1, joinColumns.2] ∧
      ∀ relation ∈ table.relations, ∀ column ∈ table.columns,
        relation.localColumns = [column.name] →
          (∃ endpoint ∈ withJoinTables models, endpoint.name = relation.type) ∧
          ∃ given ∈ models, given.name = relation.type ∧
            ∃ key, relation.foreignColumns = [key] ∧
              ∀ endpoint ∈ withJoinTables models, endpoint.name = relation.type →
                ∀ f ∈ endpoint.fields, f.name = key →
                  (column.type = f.type ↔
                    given.DeclaresKey ∨ key ≠ Model.assumedKeyName ∨
                      f.type = Model.assumedKeyType) := by
  have hallNames := nodup_name_withJoinTables hnames
  have hallFields := nodup_fieldNames_withJoinTables hfields
  rw [addedTables, drop_withJoinTables] at htable
  obtain ⟨before, ends, after, hsplit, rfl⟩ := exists_split_of_mem_joinTablesAfter htable
  refine ⟨rfl, rfl, ?_⟩
  intro relation hrelation column hcolumn hstored
  obtain ⟨m, hm, htype, hforeign, hcolumnType⟩ :=
    ends.exists_key_of_mem_tableAfter hrelation hcolumn hstored
  have hplanned : ends ∈ plannedJoins models := by
    rw [hsplit]
    exact List.mem_append_right before List.mem_cons_self
  have hfirst := firstNamed?_of_mem_ends hplanned hm
  obtain ⟨place, -, hat⟩ := exists_place_withLinks hfirst
  rw [hsplit] at hat
  have hmember := List.mem_of_getElem? hat
  refine ⟨⟨_, hmember, htype.symm⟩, m, mem_of_firstNamed? hfirst, htype.symm, _, hforeign, ?_⟩
  intro endpoint hendpoint hname f hf hkey
  obtain rfl : endpoint = m.withLinks (m.linksTo (before ++ ends :: after)) :=
    List.inj_on_of_nodup_map hallNames hendpoint hmember (hname.trans htype)
  rw [hcolumnType, ← hkey]
  exact Model.keyColumn_type_iff (hallFields _ hmember) hf hkey

/-- Whether the columns of a table have the types of the fields that they refer to. -/
def ColumnsTyped (models : List Model) (table : Model) : Prop :=
  ∀ relation ∈ table.relations, ∀ column ∈ table.columns, relation.localColumns = [column.name] →
    ∀ endpoint ∈ withJoinTables models, endpoint.name = relation.type →
      ∀ f ∈ endpoint.fields, relation.foreignColumns = [f.name] → column.type = f.type

instance (models : List Model) (table : Model) : Decidable (ColumnsTyped models table) :=
  inferInstanceAs (Decidable (∀ relation ∈ table.relations, ∀ column ∈ table.columns,
    relation.localColumns = [column.name] →
      ∀ endpoint ∈ withJoinTables models, endpoint.name = relation.type →
        ∀ f ∈ endpoint.fields, relation.foreignColumns = [f.name] → column.type = f.type))

/-- A model of which one member of the compound key is a field, and one with a marked key. -/
def keyedPair : List Model :=
  [{ name := "Post", fields := [{ name := "slug", type := "Int" }, bareListTo "Tag"],
     primaryKey := ["rev", "slug"] },
    { name := "Tag"
      fields := [{ name := "id", type := "Uuid", isId := true }, bareListTo "Post"] }]

theorem keyedPair_columnsTyped :
    (keyedPair.map (·.name)).Nodup ∧ (∀ m ∈ keyedPair, (m.fields.map (·.name)).Nodup) ∧
      (addedTables keyedPair).map (fun table => table.columns.map (·.type)) =
        [[("Int" : Text), ("Uuid" : Text)]] ∧
      ∀ table ∈ addedTables keyedPair, ColumnsTyped keyedPair table := by
  have hnames : (keyedPair.map (·.name)).Nodup := by decide
  have hfields : ∀ m ∈ keyedPair, (m.fields.map (·.name)).Nodup := by decide
  have hkeys : ∀ m ∈ keyedPair, m.DeclaresKey := by decide
  refine ⟨hnames, hfields, by decide, ?_⟩
  intro table htable relation hrelation column hcolumn hstored endpoint hendpoint hname f hf
    hforeign
  obtain ⟨-, -, hall⟩ := joinColumn_type_iff hnames hfields htable
  obtain ⟨-, given, hgiven, -, key, hkey, htyped⟩ := hall relation hrelation column hcolumn hstored
  have hsame : f.name = key := List.singleton_inj.1 (hforeign.symm.trans hkey)
  exact (htyped endpoint hendpoint hname f hf hsame).2 (.inl (hkeys given hgiven))

/-- A model without a key of which a field has the assumed name, and one with a key. -/
def keylessPair : List Model :=
  [{ name := "A", fields := [{ name := "id", type := "Int" }, bareListTo "B"] },
    { name := "B", fields := [{ name := "id", type := "Int", isId := true }, bareListTo "A"] }]

/-- A column that refers to a field of the assumed name may have another type than the field. -/
theorem not_all_columnsTyped :
    ¬∀ models : List Model, (models.map (·.name)).Nodup →
      (∀ m ∈ models, (m.fields.map (·.name)).Nodup) →
        ∀ table ∈ addedTables models, ColumnsTyped models table := by
  intro hall
  have hmistyped : ¬∀ table ∈ addedTables keylessPair, ColumnsTyped keylessPair table := by decide
  exact hmistyped (hall keylessPair (by decide) (by decide))

end SchemaBook
