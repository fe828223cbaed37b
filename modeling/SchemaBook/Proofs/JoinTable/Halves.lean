import SchemaBook.Proofs.JoinTable.Order

/-!
What a join table is made for. The search for the other half of a list field passes over fields
whose relation name differs from that of the list; a name that is missing differs from none. Main
statement: between the ends of every added table there are two list fields, one on each end and
leading to the other, whose relation names are the same unless one of them is missing.
-/

namespace SchemaBook

/-- Whether a field gives the relation that it is part of no name, or an empty one. -/
def Field.IsUnnamed (f : Field) : Prop := f.relationName = none ∨ f.relationName = some []

instance (f : Field) : Decidable f.IsUnnamed :=
  inferInstanceAs (Decidable (f.relationName = none ∨ f.relationName = some []))

/-- Whether the relation names of two fields do not contradict each other: they are the same, or one
of them is missing. -/
def Field.NamesAgree (f g : Field) : Prop :=
  f.relationName = g.relationName ∨ f.IsUnnamed ∨ g.IsUnnamed

instance (f g : Field) : Decidable (f.NamesAgree g) :=
  inferInstanceAs (Decidable (f.relationName = g.relationName ∨ f.IsUnnamed ∨ g.IsUnnamed))

theorem Field.NamesAgree.symm {f g : Field} (h : f.NamesAgree g) : g.NamesAgree f :=
  h.imp Eq.symm Or.symm

/-- Two bare lists by which two models list each other. Where the models are one, the lists are two
fields of different names. -/
structure ListEachOther (a : Model) (f : Field) (b : Model) (g : Field) : Prop where
  mem : f ∈ a.fields ∧ g ∈ b.fields
  bare : f.isBareList = true ∧ g.isBareList = true
  forth : f.type = b.name
  back : g.type = a.name
  ne : f ≠ g
  apart : a.name = b.name → f.name ≠ g.name

theorem ListEachOther.symm {a b : Model} {f g : Field} (h : ListEachOther a f b g) :
    ListEachOther b g a f where
  mem := h.mem.symm
  bare := h.bare.symm
  forth := h.back
  back := h.forth
  ne := h.ne.symm
  apart := fun heq => (h.apart heq.symm).symm

theorem relationNamesClash_eq_false_iff {f g : Field} :
    relationNamesClash f.relationName g.relationName = false ↔ f.NamesAgree g := by
  unfold Field.NamesAgree Field.IsUnnamed
  cases f.relationName with
  | none => simp [relationNamesClash]
  | some s =>
    cases g.relationName with
    | none => simp [relationNamesClash]
    | some t =>
      simp only [relationNamesClash, Bool.and_eq_false_iff, Bool.not_eq_false', List.isEmpty_iff,
        bne_eq_false_iff_eq, Option.some.injEq, reduceCtorEq, false_or]
      tauto

/-- What a field of the target has to be for it to be the other half of an owner's field. -/
def IsOtherHalf (owner : Model) (field : Field) (target : Model) (f : Field) : Prop :=
  f.isBareList = true ∧ f.type = owner.name ∧ ¬(target.name = owner.name ∧ f.name = field.name) ∧
    field.NamesAgree f

instance (owner : Model) (field : Field) (target : Model) (f : Field) :
    Decidable (IsOtherHalf owner field target f) :=
  inferInstanceAs (Decidable (f.isBareList = true ∧ f.type = owner.name ∧
    ¬(target.name = owner.name ∧ f.name = field.name) ∧ field.NamesAgree f))

theorem counterpart?_eq_find? (owner : Model) (field : Field) (target : Model) :
    counterpart? owner field target =
      target.fields.find? fun f => decide (IsOtherHalf owner field target f) := by
  rw [counterpart?]
  congr 1
  funext f
  rw [Bool.eq_iff_iff, decide_eq_true_iff, IsOtherHalf, ← relationNamesClash_eq_false_iff,
    not_and_or]
  simp [and_assoc]

/-- The search for the other half finds a field of the target that can be it. -/
theorem isOtherHalf_of_counterpart? {owner target : Model} {field half : Field}
    (h : counterpart? owner field target = some half) :
    half ∈ target.fields ∧ IsOtherHalf owner field target half := by
  rw [counterpart?_eq_find?] at h
  have htest := List.find?_some h
  exact ⟨List.mem_of_find?_eq_some h, of_decide_eq_true htest⟩

/-- A counterpart lists the owner back, under a relation name that does not contradict. -/
theorem listEachOther_of_counterpart? {owner target : Model} {field half : Field}
    (hfield : field ∈ owner.fields) (hbare : field.isBareList = true)
    (htype : field.type = target.name) (h : counterpart? owner field target = some half) :
    ListEachOther owner field target half ∧ field.NamesAgree half := by
  obtain ⟨hmem, hhalf, hback, hself, hagree⟩ := isOtherHalf_of_counterpart? h
  have hapart : owner.name = target.name → field.name ≠ half.name :=
    fun heq hname => hself ⟨heq.symm, hname.symm⟩
  refine ⟨⟨⟨hfield, hmem⟩, ⟨hbare, hhalf⟩, htype, hback, ?_, hapart⟩, hagree⟩
  rintro rfl
  exact hapart (hback.symm.trans htype) rfl

theorem exists_of_joinEnds? {models : List Model} {owner : Model} {field : Field}
    {ends : JoinEnds} (h : joinEnds? models owner field = some ends) :
    field.isBareList = true ∧ ∃ here target half, firstNamed? models owner.name = some here ∧
      firstNamed? models field.type = some target ∧ counterpart? owner field target = some half ∧
      ends = .ofModels here target := by
  unfold joinEnds? at h
  split at h
  · next hbare =>
    split at h
    · next here target hhere htarget =>
      split at h
      · next hsome =>
        obtain ⟨half, hhalf⟩ := Option.isSome_iff_exists.1 hsome
        exact ⟨hbare, here, target, half, hhere, htarget, hhalf, (Option.some.inj h).symm⟩
      · cases h
    · cases h
  · cases h

/-- Where model names are distinct, the ends of a many-to-many pair list each other. -/
theorem exists_listEachOther_of_mem_manyToMany {models : List Model}
    (hnames : (models.map (·.name)).Nodup) {ends : JoinEnds} (h : ends ∈ manyToMany models) :
    ∃ f g, ListEachOther ends.lesser f ends.greater g ∧ f.NamesAgree g := by
  obtain ⟨owner, howner, hpair⟩ := List.mem_flatMap.1 h
  obtain ⟨field, hfield, hends⟩ := List.mem_filterMap.1 hpair
  obtain ⟨hbare, here, target, half, hhere, htarget, hhalf, rfl⟩ := exists_of_joinEnds? hends
  rw [firstNamed?_of_mem hnames howner] at hhere
  obtain rfl := Option.some.inj hhere
  have htype := (name_of_firstNamed? htarget).symm
  obtain ⟨hlists, hagree⟩ := listEachOther_of_counterpart? hfield hbare htype hhalf
  rcases JoinEnds.ends_ofModels owner target with ⟨hl, hg⟩ | ⟨hl, hg⟩
  · refine ⟨half, field, ?_, hagree.symm⟩
    rw [hl, hg]
    exact hlists.symm
  · refine ⟨field, half, ?_, hagree⟩
    rw [hl, hg]
    exact hlists

/-- With distinct model names, every added table leads to two models of the list that list each
other, under one relation name unless one of the two lists bears none. -/
theorem addedTable_ends_list_each_other {models : List Model}
    (hnames : (models.map (·.name)).Nodup) {table : Model} (htable : table ∈ addedTables models) :
    ∃ lesser ∈ models, ∃ greater ∈ models,
      table.relations.map (·.type) = [lesser.name, greater.name] ∧
        ∃ f g, ListEachOther lesser f greater g ∧ f.NamesAgree g := by
  obtain ⟨ends, hends, prior, rfl⟩ := exists_of_mem_addedTables htable
  have hwithin := JoinEnds.within_of_mem_plannedJoins hends
  exact ⟨ends.lesser, mem_of_firstNamed? hwithin.lesser, ends.greater,
    mem_of_firstNamed? hwithin.greater, rfl,
    exists_listEachOther_of_mem_manyToMany hnames (mem_manyToMany_of_planned hends).1⟩

/-- Two models that list each other, of which only one names the relation. -/
def halfNamedPair : List Model :=
  [{ name := "A", fields := [{ bareListTo "B" with relationName := some "Shared" }] },
    modelListing "B" "A"]

theorem halfNamedPair_list_each_other :
    (halfNamedPair.map (·.name)).Nodup ∧
      (addedTables halfNamedPair).map (·.name) = [("_AToB" : Text)] ∧
      ∀ table ∈ addedTables halfNamedPair, ∃ lesser ∈ halfNamedPair, ∃ greater ∈ halfNamedPair,
        table.relations.map (·.type) = [lesser.name, greater.name] ∧
          ∃ f g, ListEachOther lesser f greater g ∧ f.NamesAgree g :=
  have hnames : (halfNamedPair.map (·.name)).Nodup := by decide
  ⟨hnames, by decide, fun _ htable => addedTable_ends_list_each_other hnames htable⟩

/-- Whether two fields bear one relation name; two missing names are one. -/
def Field.SharesName (f g : Field) : Prop :=
  f.relationName = g.relationName ∨ f.IsUnnamed ∧ g.IsUnnamed

instance (f g : Field) : Decidable (f.SharesName g) :=
  inferInstanceAs (Decidable (f.relationName = g.relationName ∨ f.IsUnnamed ∧ g.IsUnnamed))

/-- A table may be added for two lists of which only one bears a relation name. -/
theorem not_all_addedTables_share_name :
    ¬∀ models : List Model, (models.map (·.name)).Nodup → ∀ table ∈ addedTables models,
      ∃ lesser ∈ models, ∃ greater ∈ models,
        table.relations.map (·.type) = [lesser.name, greater.name] ∧
          ∃ f g, ListEachOther lesser f greater g ∧ f.SharesName g := by
  intro hall
  have hnone : ∀ a ∈ halfNamedPair, ∀ b ∈ halfNamedPair, ∀ f ∈ a.fields, ∀ g ∈ b.fields,
      f.type = b.name → g.type = a.name → ¬f.SharesName g := by decide
  have hsome : addedTables halfNamedPair ≠ [] := by decide
  obtain ⟨table, htable⟩ := List.exists_mem_of_ne_nil _ hsome
  obtain ⟨a, ha, b, hb, -, f, g, hlists, hshare⟩ := hall halfNamedPair (by decide) table htable
  exact hnone a ha b hb f hlists.mem.1 g hlists.mem.2 hlists.forth hlists.back hshare

end SchemaBook
