import SchemaBook.Proofs.Diagram.Restriction
import SchemaBook.Proofs.Prepared

/-!
Join tables in the diagrams of a book. A table takes over the grouping keys of its ends, so it
stands in every chapter that one of them stands in by its tags; there its two relations lead to
models of the group, and lines with fixed marks draw them. Nothing else in the group can change
these lines, but one storage name that cannot be a label keeps the whole diagram of a chapter from
being drawn. Main statement: a chapter draws a table with an end exactly when all its models have
storage names that can be labels.
-/

namespace SchemaBook

open Mermaid

namespace Model

theorem mem_groupingKeys_iff {m : Model} {key : Text} :
    key ∈ m.groupingKeys ↔ ∃ tag ∈ Tag.grouping, key ∈ Tag.keys tag m.documentation := by
  simp [groupingKeys, Tag.grouping]

theorem places_of_groupingKeys_eq_nil {m : Model} (h : m.groupingKeys = []) :
    m.places = [Book.defaultChapter] := if_pos h

theorem mem_places_of_mem_groupingKeys {m : Model} {key : Text} (h : key ∈ m.groupingKeys) :
    key ∈ m.places := by
  rwa [places, if_neg (List.ne_nil_of_mem h)]

end Model

theorem mem_groupingKeys_joinModel {lesser greater : Model} {key : Text} :
    key ∈ (joinModel lesser greater).groupingKeys ↔
      key ∈ lesser.groupingKeys ∨ key ∈ greater.groupingKeys := by
  simp only [Model.mem_groupingKeys_iff]
  change (∃ tag ∈ Tag.grouping, key ∈ Tag.keys tag (joinDocumentation lesser greater)) ↔ _
  constructor
  · rintro ⟨tag, htag, hkey⟩
    rcases (mem_keys_joinDocumentation htag lesser greater).1 hkey with hkey | hkey
    · exact .inl ⟨tag, htag, hkey⟩
    · exact .inr ⟨tag, htag, hkey⟩
  · rintro (⟨tag, htag, hkey⟩ | ⟨tag, htag, hkey⟩)
    · exact ⟨tag, htag, (mem_keys_joinDocumentation htag lesser greater).2 (.inl hkey)⟩
    · exact ⟨tag, htag, (mem_keys_joinDocumentation htag lesser greater).2 (.inr hkey)⟩

/-- The chapters that have to draw a table with one of its ends: those that the tags of the end
name, and if neither end has such tags the one for models without them. -/
def chaptersOfEnd (lesser greater endpoint : Model) : List Text :=
  if lesser.groupingKeys = [] ∧ greater.groupingKeys = [] then [Book.defaultChapter]
  else endpoint.groupingKeys

/-- The table and the end both stand in the chapters that have to draw them. -/
theorem mem_places_of_mem_chaptersOfEnd {lesser greater endpoint : Model} {name : Text}
    (hend : endpoint ∈ [lesser, greater]) (h : name ∈ chaptersOfEnd lesser greater endpoint) :
    name ∈ (joinModel lesser greater).places ∧ name ∈ endpoint.places := by
  unfold chaptersOfEnd at h
  split at h
  · next hnone =>
    have htable : (joinModel lesser greater).groupingKeys = [] := by
      refine List.eq_nil_iff_forall_not_mem.2 ?_
      intro key hkey
      rw [mem_groupingKeys_joinModel, hnone.1, hnone.2] at hkey
      simp at hkey
    have hendpoint : endpoint.groupingKeys = [] := by
      rcases List.mem_pair.1 hend with rfl | rfl
      · exact hnone.1
      · exact hnone.2
    rw [Model.places_of_groupingKeys_eq_nil htable, Model.places_of_groupingKeys_eq_nil hendpoint]
    exact ⟨h, h⟩
  · have htable : name ∈ (joinModel lesser greater).groupingKeys := by
      rw [mem_groupingKeys_joinModel]
      rcases List.mem_pair.1 hend with rfl | rfl
      · exact .inl h
      · exact .inr h
    exact ⟨Model.mem_places_of_mem_groupingKeys htable, Model.mem_places_of_mem_groupingKeys h⟩

/-- The columns of a join table are neither keys nor unique nor nullable, so whatever the opposite
end is, there are many records of the table and at least one. -/
theorem ownerEnd_joinColumn (column : Text) (target : Model) (opposite : Option Field) :
    ownerEnd (joinColumn column target) opposite = ⟨true, false⟩ := by
  simp [ownerEnd, joinColumn]

theorem targetEnd_of_ne {owner target : Model} (h : owner.name ≠ target.name) :
    targetEnd owner target = ⟨false, false⟩ := by
  simp [targetEnd, h.symm]

/-- In a group with the end that it leads to, a relation of a join table is drawn. -/
theorem relationLine?_joinModel {models : List Model} (hnames : (models.map (·.name)).Nodup)
    {lesser greater endpoint : Model} (hend : endpoint ∈ models)
    (hne : (joinModel lesser greater).name ≠ endpoint.name) {relation : Field}
    (hrelation : relation ∈ (joinModel lesser greater).relations)
    (htype : relation.type = endpoint.name) :
    relationLine? (modelIndex models) (joinModel lesser greater) relation =
      some (relationshipLine (joinModel lesser greater).storageName ⟨true, false⟩
        endpoint.storageName ⟨false, false⟩ relation.name) := by
  have hcolumn : ∃ name target, relation.localColumns.head? = some name ∧
      localColumn? (joinModel lesser greater) name = some (joinColumn name target) := by
    change relation ∈ [joinRelation _ joinRelations.1 joinColumns.1 lesser,
      joinRelation _ joinRelations.2 joinColumns.2 greater] at hrelation
    rcases List.mem_pair.1 hrelation with rfl | rfl
    · exact ⟨joinColumns.1, lesser, rfl, rfl⟩
    · exact ⟨joinColumns.2, greater, rfl, rfl⟩
  obtain ⟨name, target, hhead, hlocal⟩ := hcolumn
  simp only [relationLine?, hhead, hlocal, htype, find?_modelIndex_of_mem hnames hend,
    ownerEnd_joinColumn, targetEnd_of_ne hne, Option.bind_eq_bind, Option.bind_some]
  rfl

theorem relationship_of_labels {source target : Text} (hsource : labelFault? source = none)
    (htarget : labelFault? target = none) (left right : Multiplicity) (name : Text) :
    relationship source left.leftText target right.rightText name =
      .ok (relationshipLine source left target right name) := by
  simp [relationship, Multiplicity.ofLeft?_leftText, Multiplicity.ofRight?_rightText, hsource,
    htarget]

/-- Whether the diagram of a chapter is drawn, with the line of a relation from a join table to one
of its ends: many records of the table, at least one, for exactly one of the end. -/
def Chapter.DrawsJoin (c : Chapter) (table : Model) (relation : Field) (endpoint : Model) : Prop :=
  ∃ text line, diagram c.diagrams.toList = .ok text ∧
    relationship table.storageName "\x7d|" endpoint.storageName "||" relation.name = .ok line ∧
      line ∈ Text.splitWhere (· == .char '\n') text

theorem Chapter.drawsJoin_iff {c : Chapter} (hnames : (c.diagrams.toList.map (·.name)).Nodup)
    {lesser greater endpoint : Model} (htable : joinModel lesser greater ∈ c.diagrams.toList)
    (hend : endpoint ∈ c.diagrams.toList)
    (hne : (joinModel lesser greater).name ≠ endpoint.name) {relation : Field}
    (hrelation : relation ∈ (joinModel lesser greater).relations)
    (htype : relation.type = endpoint.name) :
    c.DrawsJoin (joinModel lesser greater) relation endpoint ↔
      ∀ m ∈ c.diagrams.toList, labelFault? m.storageName = none := by
  constructor
  · rintro ⟨text, -, hdrawn, -⟩
    exact (diagram_eq_ok_iff.1 hdrawn).1
  · intro hlabels
    have hdrawn := diagram_eq_ok_iff.2 ⟨hlabels, rfl⟩
    refine ⟨_, _, hdrawn, relationship_of_labels (hlabels _ htable) (hlabels _ hend)
      ⟨true, false⟩ ⟨false, false⟩ relation.name, ?_⟩
    rw [splitWhere_of_diagram hdrawn]
    refine List.mem_append_right _ (List.mem_flatMap.2 ⟨_, htable, ?_⟩)
    exact List.mem_filterMap.2
      ⟨relation, hrelation, relationLine?_joinModel hnames hend hne hrelation htype⟩

/-- A join table in a list of models, with the two models that its relations lead to. -/
structure IsTableBetween (models : List Model) (table lesser greater : Model) : Prop where
  lesser_mem : lesser ∈ models
  greater_mem : greater ∈ models
  relations : table.relations.map (fun r => (r.name, r.type)) =
    [(joinRelations.1, lesser.name), (joinRelations.2, greater.name)]

theorem isTableBetween_tableAfter {models : List Model} {ends : JoinEnds}
    (h : ends.Within models) (joins prior : List JoinEnds) :
    IsTableBetween (joined models joins) (ends.tableAfter prior) (ends.linked joins).lesser
      (ends.linked joins).greater where
  lesser_mem := mem_of_firstNamed? (firstNamed?_joined_of_given joins h.lesser)
  greater_mem := mem_of_firstNamed? (firstNamed?_joined_of_given joins h.greater)
  relations := rfl

/-- Links do not move a model, so a table stands where it would stand if it were built last. -/
theorem places_tableAfter (ends : JoinEnds) (joins prior : List JoinEnds) :
    (ends.tableAfter prior).places =
      (joinModel (ends.linked joins).lesser (ends.linked joins).greater).places := rfl

theorem table_ne_name_of_end {models : List Model} {ends : JoinEnds}
    (h : ends ∈ plannedJoins models) {joins : List JoinEnds} {endpoint : Model}
    (hend : endpoint ∈ [(ends.linked joins).lesser, (ends.linked joins).greater]) :
    ends.table ≠ endpoint.name := by
  have hwithin := JoinEnds.within_of_mem_plannedJoins h
  have hlesser := table_ne_name_of_planned h (mem_of_firstNamed? hwithin.lesser)
  have hgreater := table_ne_name_of_planned h (mem_of_firstNamed? hwithin.greater)
  rcases List.mem_pair.1 hend with rfl | rfl
  · exact hlesser
  · exact hgreater

/-- Every join table that preparation adds stands, with each of its ends, in the chapters that have
to draw it with that end: all that the tags of the end name, or the one for models without such
tags. Such a chapter draws the table's relation to the end, both relations where the ends are one
model, exactly when all storage names in the chapter can be labels. -/
theorem joinTables_drawn_with_ends {models out : List Model} (h : prepareModels models = .ok out)
    {table : Model} (htable : table ∈ out.drop (visibleModels models).length) :
    ∃ lesser greater, IsTableBetween out table lesser greater ∧
      ∀ relation ∈ table.relations, ∀ endpoint ∈ [lesser, greater], relation.type = endpoint.name →
        ∀ name ∈ chaptersOfEnd lesser greater endpoint,
          ∃ c ∈ (buildChapters out).chapters, c.name = name ∧ table ∈ c.diagrams.toList ∧
            endpoint ∈ c.diagrams.toList ∧
              (c.DrawsJoin table relation endpoint ↔
                ∀ m ∈ c.diagrams.toList, labelFault? m.storageName = none) := by
  obtain ⟨hgiven, hout⟩ := prepareModels_eq_ok_iff.1 h
  rw [withJoinTables_eq_joined] at hout
  have hnames : (out.map (·.name)).Nodup :=
    hout ▸ nodup_name_joined (unambiguous_visibleModels hgiven).names
  have hvisible : visibleModels out = out := hout ▸ visibleModels_joined models
  have htableMem : table ∈ out := List.mem_of_mem_drop htable
  rw [← hout, joined, List.drop_left' (length_linkedModels _ _)] at htable
  obtain ⟨ends, hends, prior, rfl⟩ := exists_of_mem_joinTablesAfter htable
  -- The ends are taken as they are at last; the table was built when they had fewer links.
  have hbetween := isTableBetween_tableAfter (JoinEnds.within_of_mem_plannedJoins hends)
    (plannedJoins (visibleModels models)) prior
  rw [hout] at hbetween
  refine ⟨_, _, hbetween, ?_⟩
  intro relation hrelation endpoint hend htype name hname
  have hendMem : endpoint ∈ out := by
    rcases List.mem_pair.1 hend with rfl | rfl
    · exact hbetween.lesser_mem
    · exact hbetween.greater_mem
  obtain ⟨htablePlace, hendPlace⟩ := mem_places_of_mem_chaptersOfEnd hend hname
  rw [← places_tableAfter ends _ prior] at htablePlace
  rw [← hvisible] at htableMem hendMem
  obtain ⟨c, hc, rfl⟩ := exists_chapter htableMem htablePlace
  have htableIn := (mem_diagrams_iff hnames hc).2 ⟨htableMem, htablePlace⟩
  have hendIn := (mem_diagrams_iff hnames hc).2 ⟨hendMem, hendPlace⟩
  have hgroup := ((diagrams_sublist hnames hc).map (·.name)).nodup hnames
  exact ⟨c, hc, rfl, htableIn, hendIn, Chapter.drawsJoin_iff hgroup htableIn hendIn
    (table_ne_name_of_end hends hend) hrelation htype⟩

/-- Two models that list each other, with tags that put them into different chapters. -/
def taggedEnds : JoinEnds where
  lesser := { modelListing "A" "B" with documentation := some "@namespace people" }
  greater := { modelListing "B" "A" with documentation := some "@erd rooms" }
  ordered := by decide

def taggedPair : List Model := [taggedEnds.lesser, taggedEnds.greater]

/-- In the chapter of the first of the two the table between them is drawn with it. -/
theorem taggedPair_drawn :
    prepareModels taggedPair = .ok (withJoinTables taggedPair) ∧
      taggedEnds.tableAfter [] ∈
        (withJoinTables taggedPair).drop (visibleModels taggedPair).length ∧
      ∃ relation endpoint, relation.name = joinRelations.1 ∧
        endpoint.name = taggedEnds.lesser.name ∧
        ∃ c ∈ (buildChapters (withJoinTables taggedPair)).chapters,
          c.name = ("people" : Text) ∧
            c.DrawsJoin (taggedEnds.tableAfter []) relation endpoint := by
  have hprepared : prepareModels taggedPair = .ok (withJoinTables taggedPair) :=
    prepareModels_eq_ok_iff.2 ⟨⟨by decide, by decide, by decide⟩, by decide⟩
  have htable : taggedEnds.tableAfter [] ∈
      (withJoinTables taggedPair).drop (visibleModels taggedPair).length := by decide
  have hnames : ((withJoinTables taggedPair).map (·.name)).Nodup := by decide
  have hkeys : ∀ m ∈ withJoinTables taggedPair, m.name = taggedEnds.lesser.name →
      m.groupingKeys = [("people" : Text)] := by decide
  have hlabels : ∀ m ∈ withJoinTables taggedPair, labelFault? m.storageName = none := by
    decide +kernel
  obtain ⟨lesser, greater, hbetween, hdrawn⟩ := joinTables_drawn_with_ends hprepared htable
  have hlesser : taggedEnds.lesser.name = lesser.name :=
    congrArg Prod.snd (List.cons.inj hbetween.relations).1
  have hpeople : ("people" : Text) ∈ chaptersOfEnd lesser greater lesser := by
    simp [chaptersOfEnd, hkeys lesser hbetween.lesser_mem hlesser.symm]
  obtain ⟨c, hc, hname, -, -, hiff⟩ := hdrawn
    (joinRelation taggedEnds.table joinRelations.1 joinColumns.1 taggedEnds.lesser)
    List.mem_cons_self lesser List.mem_cons_self hlesser _ hpeople
  have hdrawable : ∀ m ∈ c.diagrams.toList, labelFault? m.storageName = none := fun m hm =>
    hlabels m ((diagrams_sublist hnames hc).subset hm)
  exact ⟨hprepared, htable, _, lesser, rfl, hlesser.symm, c, hc, hname, hiff.2 hdrawable⟩

/-- A decimal reference with more digits than a number may have cannot stand in a label. -/
theorem labelFault?_decimal {digits : Text} (h : ∀ c ∈ digits, c.isAsciiDigit = true)
    (hlong : Text.digitLimit < digits.length) :
    labelFault? ("&#" ++ digits) = some ⟨digits.length⟩ := by
  have hrun : digits.takeWhile CodePoint.isAsciiDigit = digits := List.takeWhile_eq_self_iff.2 h
  have hne : digits ≠ [] := by
    rintro rfl
    exact absurd hlong (Nat.not_lt_zero _)
  have hread : ∃ used, Text.Reference.read? (.char '#' :: digits) =
      some (.decimal digits, used) := by
    simp only [Text.Reference.read?, hrun]
    simp [hne]
  obtain ⟨used, hread⟩ := hread
  have hcut : Text.references ("&#" ++ digits) =
      .decimal digits :: Text.references ((.char '#' :: digits).drop used) := by
    change Text.references (.char '&' :: .char '#' :: digits) = _
    rw [Text.references, if_pos rfl, hread]
  have hexcess : (Text.Reference.decimal digits).excess? = some digits.length :=
    if_neg (Nat.not_le.2 hlong)
  rw [labelFault?, Text.excessDigits?, hcut, List.findSome?_cons, hexcess]
  rfl

/-- A decimal reference with one digit more than a number may have. -/
def endlessReference : Text :=
  ("&#" : Text) ++ List.replicate (Text.digitLimit + 1) (CodePoint.char '1')

theorem labelFault?_endlessReference : labelFault? endlessReference ≠ none := by
  have hdigits : ∀ c ∈ List.replicate (Text.digitLimit + 1) (CodePoint.char '1'),
      c.isAsciiDigit = true := by
    intro c hc
    rw [List.eq_of_mem_replicate hc]
    decide
  have hlong : Text.digitLimit <
      (List.replicate (Text.digitLimit + 1) (CodePoint.char '1')).length := by
    rw [List.length_replicate]
    exact Nat.lt_succ_self _
  rw [endlessReference, labelFault?_decimal hdigits hlong]
  exact Option.some_ne_none _

/-- A model whose storage name can be no label. -/
def endlessModel : Model where
  name := "Store"
  dbName := some endlessReference

/-- A third model in the chapter may keep a join table from being drawn with its ends: preparation
lets every storage name pass that no other model has. -/
theorem not_all_joinTables_drawn :
    ¬∀ models out : List Model, prepareModels models = .ok out →
      ∀ table ∈ out.drop (visibleModels models).length,
        ∀ lesser greater, IsTableBetween out table lesser greater →
          ∀ relation ∈ table.relations, ∀ endpoint ∈ [lesser, greater],
            relation.type = endpoint.name → ∀ name ∈ chaptersOfEnd lesser greater endpoint,
              ∃ c ∈ (buildChapters out).chapters, c.name = name ∧
                c.DrawsJoin table relation endpoint := by
  intro hall
  let models := mutualPair ++ [endlessModel]
  let ends : JoinEnds := ⟨modelListing "A" "B", modelListing "B" "A", by decide⟩
  let linked := ends.linked [ends]
  have hvisible : visibleModels models = models := List.filter_eq_self.2 (by decide)
  have hprepared : prepareModels models = .ok (withJoinTables models) :=
    prepareModels_eq_ok_iff.2 ⟨⟨by decide, by decide, by decide⟩, congrArg withJoinTables hvisible⟩
  have hbetween : IsTableBetween (withJoinTables models) (ends.tableAfter []) linked.lesser
      linked.greater := ⟨by decide, by decide, rfl⟩
  have hnames : ((withJoinTables models).map (·.name)).Nodup := by decide
  have hstore : endlessModel ∈ visibleModels (withJoinTables models) :=
    List.mem_of_getElem? (i := 2) rfl
  obtain ⟨c, hc, hname, text, -, hdrawn, -⟩ := hall models (withJoinTables models) hprepared
    (ends.tableAfter []) (by decide) linked.lesser linked.greater hbetween
    (joinRelation ends.table joinRelations.1 joinColumns.1 ends.lesser) List.mem_cons_self
    linked.lesser List.mem_cons_self rfl Book.defaultChapter (by decide)
  have hplace : c.name ∈ endlessModel.places := by
    rw [hname]
    decide
  have hmember := (mem_diagrams_iff hnames hc).2 ⟨hstore, hplace⟩
  exact labelFault?_endlessReference ((diagram_eq_ok_iff.1 hdrawn).1 endlessModel hmember)

end SchemaBook
