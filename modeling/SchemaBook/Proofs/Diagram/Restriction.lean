import SchemaBook.Proofs.Book.Chapters
import SchemaBook.Proofs.Diagram.Syntax

/-!
Diagrams of a part of a list of models with distinct names. What a relation looks like depends on
the group that is drawn only through the target that the group has for it: the opposite end is a
field of that target. So to leave models out takes away boxes and lines, and changes none of the
others. Main statement: a part is drawn by the boxes of its models and by the lines that the whole
diagram has for relations between them.
-/

namespace SchemaBook

/-- A relation that a diagram draws, with the line that it is drawn by. -/
structure DrawnRelation where
  owner : Model
  field : Field
  target : Model
  line : Text

def drawnRelation? (group : OrderedSet Model.name) (owner : Model) (field : Field) :
    Option DrawnRelation := do
  let target ← group.find? field.type
  let line ← relationLine? group owner field
  return { owner, field, target, line }

/-- The relations of one owner that are drawn in a group. -/
def drawnFrom (group : OrderedSet Model.name) (owner : Model) : List DrawnRelation :=
  owner.relations.filterMap (drawnRelation? group owner)

/-- The relations that the diagram of a list of models draws, in the order of their lines. -/
def drawnRelations (models : List Model) : List DrawnRelation :=
  models.flatMap (drawnFrom (modelIndex models))

theorem map_line_drawnRelation? (group : OrderedSet Model.name) (owner : Model) (field : Field) :
    (drawnRelation? group owner field).map (·.line) = relationLine? group owner field := by
  unfold drawnRelation?
  cases htarget : group.find? field.type with
  | some target =>
    cases hline : relationLine? group owner field <;> rfl
  | none =>
    simp [relationLine?, htarget]

theorem map_line_drawnRelations (models : List Model) :
    (drawnRelations models).map (·.line) =
      models.flatMap (relationLines (modelIndex models)) := by
  rw [drawnRelations, List.map_flatMap]
  congr 1
  funext m
  rw [drawnFrom, List.map_filterMap, relationLines]
  congr 1
  funext field
  exact map_line_drawnRelation? _ m field

section Restriction

variable {models part : List Model}

theorem find?_modelIndex_of_mem (hnames : (models.map (·.name)).Nodup) {m : Model}
    (h : m ∈ models) : (modelIndex models).find? m.name = some m := by
  rw [modelIndex, OrderedSet.find?_ofList]
  exact OrderedSet.find?_key_of_mem hnames h

theorem find?_modelIndex_eq_none {name : Text} (h : name ∉ models.map (·.name)) :
    (modelIndex models).find? name = none := by
  rw [modelIndex, OrderedSet.find?_ofList, List.find?_eq_none]
  intro m hm heq
  exact h (List.mem_map.2 ⟨m, hm, of_decide_eq_true heq⟩)

/-- The opposite end of a relation is looked for on its target alone. -/
theorem oppositeField?_of_target (hnames : (models.map (·.name)).Nodup) {target : Model}
    (htarget : target ∈ models) (owner : Model) {field : Field} (htype : field.type = target.name) :
    oppositeField? (modelIndex models).toList owner field =
      oppositeField? [target] owner field := by
  have halone : (([target] : List Model).map (·.name)).Nodup := List.nodup_singleton _
  rw [modelIndex, OrderedSet.toList_ofList_of_nodup hnames, oppositeField?, oppositeField?, htype,
    filter_name_of_mem hnames htarget, filter_name_of_mem halone (List.mem_singleton_self target)]

/-- Of a group that holds the target of a relation the target alone decides how the relation is
drawn. -/
theorem relationLine?_of_target (hnames : (models.map (·.name)).Nodup) {target : Model}
    (htarget : target ∈ models) (owner : Model) {field : Field} (htype : field.type = target.name) :
    relationLine? (modelIndex models) owner field =
      relationLine? (modelIndex [target]) owner field := by
  have halone : (([target] : List Model).map (·.name)).Nodup := List.nodup_singleton _
  have hmem : target ∈ [target] := List.mem_singleton_self target
  simp only [relationLine?, oppositeField?_of_target hnames htarget owner htype,
    oppositeField?_of_target halone hmem owner htype, htype,
    find?_modelIndex_of_mem hnames htarget, find?_modelIndex_of_mem halone hmem]

/-- A part of a group draws a relation as the whole group does, if it holds the target, and else not
at all. -/
theorem drawnRelation?_restrict (hnames : (models.map (·.name)).Nodup) (hpart : part.Sublist models)
    (owner : Model) (field : Field) :
    drawnRelation? (modelIndex part) owner field =
      (drawnRelation? (modelIndex models) owner field).filter fun r => r.target ∈ part := by
  have hpartNames : (part.map (·.name)).Nodup := (hpart.map _).nodup hnames
  by_cases htype : field.type ∈ part.map (·.name)
  · obtain ⟨target, htarget, hname⟩ := List.mem_map.1 htype
    have hwhole := hpart.subset htarget
    unfold drawnRelation?
    rw [relationLine?_of_target hpartNames htarget owner hname.symm,
      relationLine?_of_target hnames hwhole owner hname.symm, ← hname,
      find?_modelIndex_of_mem hpartNames htarget, find?_modelIndex_of_mem hnames hwhole]
    cases relationLine? (modelIndex [target]) owner field with
    | none => rfl
    | some line => simp [Option.filter, htarget]
  · unfold drawnRelation?
    rw [find?_modelIndex_eq_none htype]
    cases htarget : (modelIndex models).find? field.type with
    | none => rfl
    | some target =>
      have hname : target.name = field.type := by
        simpa using List.find?_some htarget
      have hout : target ∉ part := fun hmem => htype (hname ▸ List.mem_map_of_mem hmem)
      cases relationLine? (modelIndex models) owner field with
      | none => rfl
      | some line => simp [Option.filter, hout]

/-- A part of a list without repetitions is what is left when the others are taken out. -/
theorem filter_mem_of_sublist {α : Type} [DecidableEq α] {xs ys : List α} (hys : ys.Nodup)
    (h : xs.Sublist ys) : ys.filter (fun a => a ∈ xs) = xs := by
  have hkept : xs.filter (fun a => a ∈ xs) = xs :=
    List.filter_eq_self.2 fun a ha => decide_eq_true ha
  have hsub : xs.Sublist (ys.filter fun a => a ∈ xs) := by
    have hfilter := h.filter fun a => decide (a ∈ xs)
    rwa [hkept] at hfilter
  have hsubset : ys.filter (fun a => a ∈ xs) ⊆ xs := by
    intro a ha
    exact of_decide_eq_true (List.mem_filter.1 ha).2
  exact (hsub.eq_of_length_le ((hys.filter _).subperm hsubset).length_le).symm

theorem owner_of_drawnRelation? {group : OrderedSet Model.name} {owner : Model} {field : Field}
    {r : DrawnRelation} (h : drawnRelation? group owner field = some r) : r.owner = owner := by
  unfold drawnRelation? at h
  simp only [Option.bind_eq_bind, Option.bind_eq_some_iff] at h
  obtain ⟨target, -, line, -, hr⟩ := h
  rw [← Option.some.inj hr]

theorem field_of_drawnRelation? {group : OrderedSet Model.name} {owner : Model} {field : Field}
    {r : DrawnRelation} (h : drawnRelation? group owner field = some r) : r.field = field := by
  unfold drawnRelation? at h
  simp only [Option.bind_eq_bind, Option.bind_eq_some_iff] at h
  obtain ⟨target, -, line, -, hr⟩ := h
  exact (congrArg DrawnRelation.field (Option.some.inj hr)).symm

theorem owner_of_mem_drawnFrom {group : OrderedSet Model.name} {owner : Model}
    {r : DrawnRelation} (h : r ∈ drawnFrom group owner) : r.owner = owner := by
  obtain ⟨field, -, hr⟩ := List.mem_filterMap.1 h
  exact owner_of_drawnRelation? hr

/-- A relation is drawn with its owner and its field as they stand in the list, and both tell all
that is drawn of it. -/
theorem mem_drawnRelations_iff {r : DrawnRelation} :
    r ∈ drawnRelations models ↔ r.owner ∈ models ∧ r.field ∈ r.owner.relations ∧
      drawnRelation? (modelIndex models) r.owner r.field = some r := by
  constructor
  · intro h
    obtain ⟨owner, howner, hfrom⟩ := List.mem_flatMap.1 h
    obtain rfl := owner_of_mem_drawnFrom hfrom
    obtain ⟨field, hfield, hdrawn⟩ := List.mem_filterMap.1 hfrom
    obtain rfl := field_of_drawnRelation? hdrawn
    exact ⟨howner, hfield, hdrawn⟩
  · rintro ⟨howner, hfield, hdrawn⟩
    exact List.mem_flatMap.2 ⟨r.owner, howner, List.mem_filterMap.2 ⟨r.field, hfield, hdrawn⟩⟩

/-- The relations of an owner that a part draws are those that the whole group draws and that lead
into the part. -/
theorem drawnFrom_restrict (hnames : (models.map (·.name)).Nodup) (hpart : part.Sublist models)
    (owner : Model) :
    drawnFrom (modelIndex part) owner =
      (drawnFrom (modelIndex models) owner).filter fun r => r.target ∈ part := by
  rw [drawnFrom, drawnFrom, List.filter_filterMap]
  congr 1
  funext field
  exact drawnRelation?_restrict hnames hpart owner field

theorem flatMap_drawnFrom_restrict (hnames : (models.map (·.name)).Nodup)
    (hpart : part.Sublist models) (owners : List Model) :
    (owners.filter fun m => m ∈ part).flatMap (drawnFrom (modelIndex part)) =
      (owners.flatMap (drawnFrom (modelIndex models))).filter fun r =>
        r.owner ∈ part ∧ r.target ∈ part := by
  induction owners with
  | nil => rfl
  | cons owner rest ih =>
    rw [List.flatMap_cons, List.filter_append, ← ih]
    by_cases howner : owner ∈ part
    · have hfilter : (drawnFrom (modelIndex models) owner).filter (fun r =>
          r.owner ∈ part ∧ r.target ∈ part) = drawnFrom (modelIndex part) owner := by
        rw [drawnFrom_restrict hnames hpart]
        apply List.filter_congr
        intro r hr
        simp [owner_of_mem_drawnFrom hr, howner]
      rw [List.filter_cons_of_pos (by simpa using howner), List.flatMap_cons, hfilter]
    · have hfilter : (drawnFrom (modelIndex models) owner).filter (fun r =>
          r.owner ∈ part ∧ r.target ∈ part) = [] := by
        refine List.filter_eq_nil_iff.2 ?_
        intro r hr
        simp [owner_of_mem_drawnFrom hr, howner]
      rw [List.filter_cons_of_neg (by simpa using howner), hfilter, List.nil_append]

/-- A part of a group draws the relations of the whole group that have both ends in it. -/
theorem drawnRelations_restrict (hnames : (models.map (·.name)).Nodup)
    (hpart : part.Sublist models) :
    drawnRelations part =
      (drawnRelations models).filter fun r => r.owner ∈ part ∧ r.target ∈ part := by
  have hkept : models.filter (fun m => m ∈ part) = part :=
    filter_mem_of_sublist (hnames.of_map _) hpart
  rw [drawnRelations, drawnRelations, ← flatMap_drawnFrom_restrict hnames hpart, hkept]

/-- A part of a list of models with distinct names is drawn as the whole list is. If the whole can
be drawn, the part can. The diagram of the part has the boxes of its models, as and where they
follow each other in the whole diagram, and the lines of the relations that have both their ends in
the part, again as in the whole diagram. The models that a chapter draws are such a part, so a
relation is drawn by one and the same line in every chapter that holds both its ends. -/
theorem diagram_restrict (hnames : (models.map (·.name)).Nodup) (hpart : part.Sublist models) :
    (∀ whole, diagram models = .ok whole →
        Text.splitWhere (· == .char '\n') whole =
            openingLine :: models.flatMap boxLines ++ (drawnRelations models).map (·.line) ∧
          ∃ piece, diagram part = .ok piece) ∧
      (∀ piece, diagram part = .ok piece →
        Text.splitWhere (· == .char '\n') piece =
          openingLine :: (models.filter (· ∈ part)).flatMap boxLines ++
            ((drawnRelations models).filter fun r =>
              r.owner ∈ part ∧ r.target ∈ part).map (·.line)) ∧
      ∀ c ∈ (buildChapters models).chapters,
        c.diagrams.toList.Sublist models ∧
          drawnRelations c.diagrams.toList =
            (drawnRelations models).filter fun r =>
              r.owner ∈ c.diagrams.toList ∧ r.target ∈ c.diagrams.toList := by
  refine ⟨?_, ?_, ?_⟩
  · intro whole hwhole
    refine ⟨?_, Text.joinLines (diagramLines part), diagram_eq_ok_iff.2 ⟨?_, rfl⟩⟩
    · rw [splitWhere_of_diagram hwhole, map_line_drawnRelations]
      rfl
    · intro m hm
      exact (diagram_eq_ok_iff.1 hwhole).1 m (hpart.subset hm)
  · intro piece hpiece
    rw [splitWhere_of_diagram hpiece, filter_mem_of_sublist (hnames.of_map _) hpart,
      ← drawnRelations_restrict hnames hpart, map_line_drawnRelations]
    rfl
  · intro c hc
    have hsublist := diagrams_sublist hnames hc
    exact ⟨hsublist, drawnRelations_restrict hnames hsublist⟩

end Restriction

/-- A book with its author in one chapter and with its shelf in another. -/
def library : List Model :=
  [{ name := "Author", documentation := some "@namespace people" },
    { name := "Book", documentation := some "@namespace people\n@namespace rooms"
      fields := [{ name := "authorId", type := "Int" }, { name := "shelfId", type := "Int" },
        { name := "author", type := "Author", kind := .relation
          localColumns := [("authorId" : Text)] },
        { name := "shelf", type := "Shelf", kind := .relation
          localColumns := [("shelfId" : Text)] }] },
    { name := "Shelf", documentation := some "@namespace rooms" }]

/-- Without the shelf the library is drawn with one of its two relations, by the line that it had.
-/
theorem library_without_shelf :
    (library.map (·.name)).Nodup ∧ (library.take 2).Sublist library ∧
      ∃ whole piece, diagram library = .ok whole ∧ diagram (library.take 2) = .ok piece ∧
        (Text.splitWhere (· == .char '\n') whole).drop 9 =
          [("\"Book\" \x7d|--|| \"Author\" : author" : Text),
            ("\"Book\" \x7d|--|| \"Shelf\" : shelf" : Text)] ∧
        (Text.splitWhere (· == .char '\n') piece).drop 7 =
          [("\"Book\" \x7d|--|| \"Author\" : author" : Text)] := by
  have hnames : (library.map (·.name)).Nodup := by decide
  have hpart : (library.take 2).Sublist library := List.take_sublist 2 library
  have hdrawn : diagram library = .ok (Text.joinLines (diagramLines library)) :=
    diagram_eq_ok_iff.2 ⟨by decide +kernel, rfl⟩
  obtain ⟨hwhole, hpiece, -⟩ := diagram_restrict hnames hpart
  obtain ⟨hlines, piece, hpieceDrawn⟩ := hwhole _ hdrawn
  refine ⟨hnames, hpart, _, piece, hdrawn, hpieceDrawn, ?_, ?_⟩
  · rw [hlines]
    decide +kernel
  · rw [hpiece piece hpieceDrawn]
    decide +kernel

end SchemaBook
