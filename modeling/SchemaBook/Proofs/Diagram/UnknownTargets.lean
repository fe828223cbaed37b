import SchemaBook.Proofs.Diagram.JoinTables
import SchemaBook.Proofs.Warnings

/-!
Relations of which validation warns that they will not be drawn, because they lead to no model of
the list. Validation holds targets against the names that are given; a diagram holds them against
the names of a chapter, and preparation has added names by then. Main statement: such a relation is
drawn exactly where it leads to a join table that was added, in the chapters that its model and the
table share.
-/

namespace SchemaBook

open Mermaid

/-- Whether validation reports, for the model at a place, that a field of it leads to no model. -/
def ReportsUnknownTarget (config : ValidationConfig) (models : List Model) (place : Nat)
    (f : Field) : Prop :=
  ∃ issue ∈ validate models config, issue.code = ("W_RELATION_TARGET_UNKNOWN" : Text) ∧
    issue.path = "/models/" ++ toString place ++ "/fields/" ++ f.name

/-- Whether the diagram of a chapter is drawn, with a line for a field of the model of a name. -/
def Chapter.DrawsField (c : Chapter) (owner : Text) (f : Field) : Prop :=
  ∃ text, diagram c.diagrams.toList = .ok text ∧
    ∃ r ∈ drawnRelations c.diagrams.toList, r.owner.name = owner ∧ r.field = f ∧
      r.line ∈ Text.splitWhere (· == .char '\n') text

/-- Whether a relation is stored in a column of its model. -/
def Field.isStoredIn (f : Field) (m : Model) : Bool :=
  (f.localColumns.head?.bind (localColumn? m)).isSome

section Reports

variable {config : ValidationConfig} {models : List Model}

theorem mem_report {finding : Finding} {issue : Issue} (h : issue ∈ config.report finding) :
    config.ignored.contains finding.code = false ∧ issue.code = finding.code ∧
      issue.path = finding.path := by
  unfold ValidationConfig.report at h
  split at h
  · cases h
  · next hreported =>
    rw [List.mem_singleton.1 h]
    exact ⟨Bool.eq_false_iff.2 hreported, rfl, rfl⟩

theorem head?_code_of_error {finding : Finding} (h : finding.severity = .error) :
    finding.code.head? = some (.char 'E') := by
  cases finding with
  | noModels | unknownTarget => cases h
  | duplicateModel | sharedStorageName | duplicateField => rfl

theorem exists_mem_report (finding : Finding)
    (h : config.ignored.contains finding.code = false) :
    ∃ issue ∈ config.report finding, issue.code = finding.code ∧ issue.path = finding.path := by
  rw [ValidationConfig.report, if_neg (by simp only [h, Bool.false_eq_true, not_false_eq_true])]
  exact ⟨_, List.mem_cons_self, rfl, rfl⟩

theorem notMem_toString_nat (n : Nat) : CodePoint.char '/' ∉ Text.ofString (toString n) := by
  intro hmem
  obtain ⟨digit, hdigit, heq⟩ := List.mem_map.1 hmem
  obtain rfl := CodePoint.char.inj heq
  change '/' ∈ (Nat.repr n).toList at hdigit
  rw [Nat.toList_repr] at hdigit
  exact absurd (Nat.isDigit_of_mem_toDigits (by decide) (by decide) hdigit) (by decide)

/-- A place is written in digits, so the path tells the place and the field. -/
theorem fieldPath_inj {place other : Nat} {name otherName : Text}
    (h : ("/models/" ++ toString place ++ "/fields/" ++ name : Text) =
      "/models/" ++ toString other ++ "/fields/" ++ otherName) :
    place = other ∧ name = otherName := by
  have hdigits : ∀ (n : Nat) (rest : Text),
      (Text.ofString (toString n) ++ (("/fields/" : Text) ++ rest)).takeWhile
        (· ≠ .char '/') = Text.ofString (toString n) := by
    intro n rest
    have hall : ∀ c ∈ Text.ofString (toString n), decide (c ≠ .char '/') = true := fun c hc =>
      decide_eq_true fun heq => notMem_toString_nat n (heq ▸ hc)
    rw [List.takeWhile_append_of_pos hall]
    exact List.append_nil _
  simp only [List.append_assoc] at h
  have hbehind := List.append_cancel_left h
  have hplace := congrArg (List.takeWhile (· ≠ .char '/')) hbehind
  rw [hdigits, hdigits] at hplace
  rw [hplace] at hbehind
  exact ⟨toString_nat_injective (Text.ofString_injective hplace),
    List.append_cancel_left (List.append_cancel_left hbehind)⟩

/-- Among the issues of a list, those with the code of unknown targets come from relations whose
type no model of the list has as its name. -/
theorem mem_validate_unknownTarget {issue : Issue} (h : issue ∈ validate models config)
    (hcode : issue.code = ("W_RELATION_TARGET_UNKNOWN" : Text)) :
    ∃ place m f, models[place]? = some m ∧ f ∈ m.relations ∧ f.type ∉ models.map (·.name) ∧
      issue ∈ config.report (.unknownTarget m.name f.name f.type place) := by
  unfold validate at h
  split at h
  · have hempty := (mem_report h).2.1
    rw [hcode] at hempty
    exact absurd hempty (by decide)
  rcases List.mem_append.1 h with hscan | htarget
  · obtain ⟨finding, herror, hreport⟩ := ModelScan.exists_error_of_mem_scan hscan
    have hhead := head?_code_of_error herror
    rw [← (mem_report hreport).2.1, hcode] at hhead
    exact absurd hhead (by decide)
  · obtain ⟨⟨m, place⟩, hentry, hissue⟩ := List.mem_flatMap.1 htarget
    obtain ⟨f, hf, hreport⟩ := List.mem_flatMap.1 hissue
    split at hreport
    · cases hreport
    · next hunknown =>
      rw [ModelScan.isSome_lookup_scan] at hunknown
      exact ⟨place, m, f, List.mem_zipIdx_iff_getElem?.1 hentry, hf, hunknown, hreport⟩

/-- Where field names are distinct, a report is about the field that its path names. -/
theorem reportsUnknownTarget_iff {place : Nat} {m : Model} (hm : models[place]? = some m)
    (hfields : (m.fields.map (·.name)).Nodup) {f : Field} (hf : f ∈ m.relations) :
    ReportsUnknownTarget config models place f ↔
      config.ignored.contains ("W_RELATION_TARGET_UNKNOWN" : Text) = false ∧
        f.type ∉ models.map (·.name) := by
  constructor
  · rintro ⟨issue, hissue, hcode, hpath⟩
    obtain ⟨other, owner, g, howner, hg, htype, hreport⟩ :=
      mem_validate_unknownTarget hissue hcode
    obtain ⟨hignored, -, hplace⟩ := mem_report hreport
    obtain ⟨rfl, hname⟩ := fieldPath_inj (hplace.symm.trans hpath)
    obtain rfl := Option.some.inj (howner.symm.trans hm)
    obtain rfl := List.inj_on_of_nodup_map hfields (List.mem_filter.1 hg).1
      (List.mem_filter.1 hf).1 hname
    exact ⟨hignored, htype⟩
  · rintro ⟨hignored, htype⟩
    obtain ⟨issue, hreport, hcode, hpath⟩ :=
      exists_mem_report (.unknownTarget m.name f.name f.type place) hignored
    have hunknown := mt (ModelScan.isSome_lookup_scan config models f.type).1 htype
    have hnonempty : models ≠ [] := by
      rintro rfl
      cases hm
    refine ⟨issue, ?_, hcode, hpath⟩
    rw [validate, if_neg (by simpa using hnonempty)]
    refine List.mem_append_right _ (List.mem_flatMap.2 ⟨(m, place), ?_, ?_⟩)
    · exact List.mem_zipIdx_iff_getElem?.2 hm
    · refine List.mem_flatMap.2 ⟨f, hf, ?_⟩
      rwa [if_neg hunknown]

end Reports

/-- A relation is drawn where it is stored in a column and the group has its target. -/
theorem exists_drawnRelation?_iff {group : OrderedSet Model.name} {owner : Model} {f : Field} :
    (∃ r, drawnRelation? group owner f = some r) ↔
      f.isStoredIn owner = true ∧ f.type ∈ group.toList.map (·.name) := by
  have hline : relationLine? group owner f =
      (f.localColumns.head?.bind (localColumn? owner)).bind fun column =>
        (group.find? f.type).bind fun target =>
          some (relationshipLine owner.storageName
            (ownerEnd column (oppositeField? group.toList owner f))
            target.storageName (targetEnd owner target) f.name) := by
    rw [Option.bind_assoc]
    rfl
  rw [← OrderedSet.contains_iff, OrderedSet.contains, drawnRelation?, hline, Field.isStoredIn]
  cases f.localColumns.head?.bind (localColumn? owner) <;> cases group.find? f.type <;> simp

/-- A chapter draws a field where no storage name keeps it from being drawn, the field is a relation
stored in a column of its owner, and owner and target stand in the chapter. -/
theorem Chapter.drawsField_iff {c : Chapter} {name : Text} {f : Field} :
    c.DrawsField name f ↔
      (∀ m ∈ c.diagrams.toList, labelFault? m.storageName = none) ∧
        ∃ owner ∈ c.diagrams.toList, owner.name = name ∧ f ∈ owner.relations ∧
          f.isStoredIn owner = true ∧ f.type ∈ c.diagrams.toList.map (·.name) := by
  have hgroup : ∀ key, key ∈ (modelIndex c.diagrams.toList).toList.map (·.name) ↔
      key ∈ c.diagrams.toList.map (·.name) := OrderedSet.mem_keys_ofList _ _
  constructor
  · rintro ⟨text, hdiagram, r, hr, rfl, rfl, -⟩
    refine ⟨(diagram_eq_ok_iff.1 hdiagram).1, ?_⟩
    obtain ⟨howner, hfield, hsome⟩ := mem_drawnRelations_iff.1 hr
    obtain ⟨hstored, htarget⟩ := exists_drawnRelation?_iff.1 ⟨r, hsome⟩
    exact ⟨r.owner, howner, rfl, hfield, hstored, (hgroup _).1 htarget⟩
  · rintro ⟨hlabels, owner, howner, rfl, hf, hstored, htarget⟩
    obtain ⟨r, hr⟩ := exists_drawnRelation?_iff.2 ⟨hstored, (hgroup _).2 htarget⟩
    obtain rfl := owner_of_drawnRelation? hr
    obtain rfl := field_of_drawnRelation? hr
    have hdrawn := mem_drawnRelations_iff.2 ⟨howner, hf, hr⟩
    have hdiagram := diagram_eq_ok_iff.2 ⟨hlabels, rfl⟩
    refine ⟨_, hdiagram, r, hdrawn, rfl, rfl, ?_⟩
    rw [splitWhere_of_diagram hdiagram, diagramLines, ← map_line_drawnRelations]
    exact List.mem_append_right _ (List.mem_map_of_mem hdrawn)

namespace Model

variable {m : Model} {links : List JoinLink}

/-- Links are relations, so they change no column of a model. -/
theorem columns_withLinks : (m.withLinks links).columns = m.columns := by
  have hnone : (m.linkFields links).filter (!·.isRelation) = [] := by
    refine List.filter_eq_nil_iff.2 ?_
    intro f hf
    simp [(isList_of_mem_linkFields hf).1]
  rw [Model.columns, withLinks, List.filter_append, hnone, List.append_nil]
  rfl

theorem isStoredIn_withLinks (f : Field) :
    f.isStoredIn (m.withLinks links) = f.isStoredIn m := by
  have hcolumn : localColumn? (m.withLinks links) = localColumn? m := by
    funext name
    rw [localColumn?, columns_withLinks]
    rfl
  rw [Field.isStoredIn, hcolumn]
  rfl

theorem mem_relations_withLinks {f : Field} (hf : f ∈ m.relations) :
    f ∈ (m.withLinks links).relations := by
  obtain ⟨hfield, hrelation⟩ := List.mem_filter.1 hf
  exact List.mem_filter.2 ⟨List.mem_append_left _ hfield, hrelation⟩

end Model

theorem type_of_mem_relations_tableAfter {ends : JoinEnds} {prior : List JoinEnds} {f : Field}
    (hf : f ∈ (ends.tableAfter prior).relations) :
    f.type = ends.lesser.name ∨ f.type = ends.greater.name := by
  rcases List.mem_pair.1 (show f ∈ [_, _] from hf) with rfl | rfl
  · exact .inl rfl
  · exact .inr rfl

section Joined

variable {models : List Model}

theorem exists_withLinks_mem_joined (joins : List JoinEnds) {m : Model} (h : m ∈ models) :
    ∃ links, m.withLinks links ∈ joined models joins := by
  obtain ⟨place, hplace, rfl⟩ := List.mem_iff_getElem.1 h
  exact ⟨_, List.mem_append_left _ (List.mem_mapIdx.2 ⟨place, hplace, rfl⟩)⟩

/-- A relation that leads to no given model is not one of a join table. -/
theorem given_of_mem_relations_joined {joins : List JoinEnds}
    (hjoins : ∀ ends ∈ joins, ends.Within models) {owner : Model}
    (howner : owner ∈ joined models joins) {f : Field} (hf : f ∈ owner.relations)
    (htype : f.type ∉ models.map (·.name)) :
    ∃ given ∈ models, ∃ links, owner = given.withLinks links := by
  rcases List.mem_append.1 howner with hlinked | htable
  · obtain ⟨place, hplace, rfl⟩ := List.mem_mapIdx.1 hlinked
    exact ⟨_, List.getElem_mem hplace, _, rfl⟩
  · obtain ⟨ends, hends, prior, rfl⟩ := exists_of_mem_joinTablesAfter htable
    refine absurd ?_ htype
    rcases type_of_mem_relations_tableAfter hf with heq | heq
    · exact heq ▸ List.mem_map_of_mem (mem_of_firstNamed? (hjoins ends hends).lesser)
    · exact heq ▸ List.mem_map_of_mem (mem_of_firstNamed? (hjoins ends hends).greater)

theorem table_of_mem_joined {joins : List JoinEnds} {target : Model}
    (h : target ∈ joined models joins) (hname : target.name ∉ models.map (·.name)) :
    target ∈ joinTablesAfter [] joins := by
  refine (List.mem_append.1 h).resolve_left fun hlinked => hname ?_
  rw [← map_name_linkedModels models joins]
  exact List.mem_map_of_mem hlinked

end Joined

/-- A chapter of prepared models draws those that have it among their places. -/
theorem mem_diagrams_of_prepared {models out : List Model} (h : prepareModels models = .ok out)
    {c : Chapter} (hc : c ∈ (buildChapters out).chapters) {m : Model} :
    m ∈ c.diagrams.toList ↔ m ∈ out ∧ c.name ∈ m.places := by
  obtain ⟨hgiven, hout⟩ := prepareModels_eq_ok_iff.1 h
  rw [withJoinTables_eq_joined] at hout
  have hnames : (out.map (·.name)).Nodup :=
    hout ▸ nodup_name_joined (unambiguous_visibleModels hgiven).names
  have hvisible : visibleModels out = out := hout ▸ visibleModels_joined models
  rw [mem_diagrams_iff hnames hc, hvisible]

/-- What lets a chapter draw a field of a model whose target is not given: in the prepared list the
target is an added table, which stands in the chapter with the model. -/
structure LeadsToAddedTable (models out : List Model) (c : Chapter) (m : Model) (f : Field) :
    Prop where
  visible : m ∈ visibleModels models
  place : c.name ∈ m.places
  stored : f.isStoredIn m = true
  table : ∃ table ∈ out.drop (visibleModels models).length,
    table.name = f.type ∧ c.name ∈ table.places
  labels : ∀ other ∈ c.diagrams.toList, labelFault? other.storageName = none

theorem drawsField_iff_leadsToAddedTable {models out : List Model}
    (h : prepareModels models = .ok out) {m : Model} (hm : m ∈ models) {f : Field}
    (hf : f ∈ m.relations) (htype : f.type ∉ models.map (·.name)) {c : Chapter}
    (hc : c ∈ (buildChapters out).chapters) :
    c.DrawsField m.name f ↔ LeadsToAddedTable models out c m f := by
  obtain ⟨hgiven, hout⟩ := prepareModels_eq_ok_iff.1 h
  rw [withJoinTables_eq_joined] at hout
  have hwithin : ∀ ends ∈ plannedJoins (visibleModels models), ends.Within (visibleModels models) :=
    fun ends hends => JoinEnds.within_of_mem_plannedJoins hends
  have htables : out.drop (visibleModels models).length =
      joinTablesAfter [] (plannedJoins (visibleModels models)) := by
    rw [← hout, joined, List.drop_left' (length_linkedModels _ _)]
  have hunknown : f.type ∉ (visibleModels models).map (·.name) := fun hknown =>
    htype ((List.filter_sublist.map _).subset hknown)
  rw [Chapter.drawsField_iff]
  constructor
  · rintro ⟨hlabels, owner, howner, hname, hfield, hstored, htarget⟩
    obtain ⟨hownerOut, hownerPlace⟩ := (mem_diagrams_of_prepared h hc).1 howner
    obtain ⟨target, htargetIn, htargetName⟩ := List.mem_map.1 htarget
    obtain ⟨htargetOut, htargetPlace⟩ := (mem_diagrams_of_prepared h hc).1 htargetIn
    rw [← hout] at hownerOut htargetOut
    obtain ⟨given, hvisible, links, rfl⟩ :=
      given_of_mem_relations_joined hwithin hownerOut hfield hunknown
    obtain rfl : given = m := List.inj_on_of_nodup_map hgiven.names
      (List.mem_of_mem_filter hvisible) hm hname
    have htable := table_of_mem_joined htargetOut (htargetName ▸ hunknown)
    rw [Model.isStoredIn_withLinks] at hstored
    exact ⟨hvisible, hownerPlace, hstored, ⟨target, htables ▸ htable, htargetName, htargetPlace⟩,
      hlabels⟩
  · rintro ⟨hvisible, hplace, hstored, ⟨table, htable, htableName, htablePlace⟩, hlabels⟩
    rw [htables] at htable
    obtain ⟨links, hlinked⟩ :=
      exists_withLinks_mem_joined (plannedJoins (visibleModels models)) hvisible
    have howner : m.withLinks links ∈ c.diagrams.toList :=
      (mem_diagrams_of_prepared h hc).2 ⟨hout ▸ hlinked, hplace⟩
    have htarget : table ∈ c.diagrams.toList :=
      (mem_diagrams_of_prepared h hc).2 ⟨hout ▸ List.mem_append_right _ htable, htablePlace⟩
    refine ⟨hlabels, m.withLinks links, howner, rfl, Model.mem_relations_withLinks hf, ?_, ?_⟩
    · rwa [Model.isStoredIn_withLinks]
    · exact htableName ▸ List.mem_map_of_mem htarget

/-- Where validation warns that a relation will not be drawn, the promise is kept unless preparation
adds a join table of the name that the relation leads to. Then the relation is drawn in the chapters
that its model and the table share, if it is stored in a column and all storage names in the chapter
can be labels. -/
theorem unknownTarget_drawn_iff {models out : List Model} (h : prepareModels models = .ok out)
    {config : ValidationConfig} {place : Nat} {m : Model} (hm : models[place]? = some m)
    {f : Field} (hf : f ∈ m.relations)
    (hwarned : ReportsUnknownTarget config models place f) :
    (∀ c ∈ (buildChapters out).chapters,
        c.DrawsField m.name f ↔ LeadsToAddedTable models out c m f) ∧
      ((∀ table ∈ out.drop (visibleModels models).length, table.name ≠ f.type) →
        ∀ c ∈ (buildChapters out).chapters, ¬c.DrawsField m.name f) := by
  have hmem : m ∈ models := List.mem_of_getElem? hm
  have hfields := (prepareModels_eq_ok_iff.1 h).1.fieldNames m hmem
  obtain ⟨-, htype⟩ := (reportsUnknownTarget_iff hm hfields hf).1 hwarned
  have hdrawn : ∀ c ∈ (buildChapters out).chapters,
      c.DrawsField m.name f ↔ LeadsToAddedTable models out c m f := fun c hc =>
    drawsField_iff_leadsToAddedTable h hmem hf htype hc
  refine ⟨hdrawn, fun hnone c hc hdraws => ?_⟩
  obtain ⟨table, htable, hname, -⟩ := ((hdrawn c hc).1 hdraws).table
  exact hnone table htable hname

def noteOn (target : Text) : Model where
  name := "Note"
  fields := [{ name := "itemId", type := "Int" },
    { name := "item", type := target, kind := .relation, localColumns := ["itemId"] }]

/-- Two models that list each other, and a third with a relation to a model of some name. -/
def pairAndNote (target : Text) : List Model := mutualPair ++ [noteOn target]

/-- A relation to a model that is nowhere is warned of and not drawn. -/
theorem pairAndNote_undrawn :
    prepareModels (pairAndNote "Tag") = .ok (withJoinTables (pairAndNote "Tag")) ∧
      ∃ f ∈ (noteOn "Tag").relations, ReportsUnknownTarget {} (pairAndNote "Tag") 2 f ∧
        ∀ c ∈ (buildChapters (withJoinTables (pairAndNote "Tag"))).chapters,
          ¬c.DrawsField "Note" f := by
  have hprepared : prepareModels (pairAndNote "Tag") = .ok (withJoinTables (pairAndNote "Tag")) :=
    prepareModels_eq_ok_iff.2 ⟨⟨by decide, by decide, by decide⟩, by decide⟩
  have hf : (noteOn "Tag").fields[1] ∈ (noteOn "Tag").relations := by decide
  have hwarned : ReportsUnknownTarget {} (pairAndNote "Tag") 2 (noteOn "Tag").fields[1] :=
    (reportsUnknownTarget_iff rfl (by decide) hf).2 (by decide)
  obtain ⟨-, hundrawn⟩ := unknownTarget_drawn_iff hprepared rfl hf hwarned
  exact ⟨hprepared, _, hf, hwarned, hundrawn (by decide)⟩

/-- A relation to the table between two models is warned of, but drawn once the table is there. -/
theorem not_all_unknownTargets_undrawn :
    ¬∀ models out : List Model, prepareModels models = .ok out →
      ∀ (place : Nat) (m : Model), models[place]? = some m →
        ∀ f ∈ m.relations, ReportsUnknownTarget {} models place f →
          ∀ c ∈ (buildChapters out).chapters, ¬c.DrawsField m.name f := by
  intro hall
  have hprepared : prepareModels (pairAndNote "_AToB") =
      .ok (withJoinTables (pairAndNote "_AToB")) :=
    prepareModels_eq_ok_iff.2 ⟨⟨by decide, by decide, by decide⟩, by decide⟩
  have hf : (noteOn "_AToB").fields[1] ∈ (noteOn "_AToB").relations := by decide
  have hwarned : ReportsUnknownTarget {} (pairAndNote "_AToB") 2 (noteOn "_AToB").fields[1] :=
    (reportsUnknownTarget_iff rfl (by decide) hf).2 (by decide)
  have hnote : noteOn "_AToB" ∈ visibleModels (withJoinTables (pairAndNote "_AToB")) := by decide
  obtain ⟨c, hc, hname⟩ := exists_chapter hnote
    (show Book.defaultChapter ∈ (noteOn "_AToB").places by decide)
  have hlabels : ∀ m ∈ withJoinTables (pairAndNote "_AToB"), labelFault? m.storageName = none := by
    decide +kernel
  refine hall _ _ hprepared 2 _ rfl _ hf hwarned c hc (Chapter.drawsField_iff.2 ?_)
  have hplaced : ∀ m ∈ withJoinTables (pairAndNote "_AToB"), Book.defaultChapter ∈ m.places →
      m ∈ c.diagrams.toList := fun m hm hplace =>
    (mem_diagrams_of_prepared hprepared hc).2 ⟨hm, hname ▸ hplace⟩
  refine ⟨fun m hm => hlabels m ((mem_diagrams_of_prepared hprepared hc).1 hm).1,
    noteOn "_AToB", hplaced _ (by decide) (by decide), rfl, hf, by decide, ?_⟩
  exact List.mem_map.2
    ⟨(withJoinTables (pairAndNote "_AToB"))[3], hplaced _ (by decide) (by decide), by decide⟩

end SchemaBook
