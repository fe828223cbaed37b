import SchemaBook.Proofs.Diagram.Ends

/-!
The column that decides how a relation is drawn. A relation names its column, and the column is
looked for by both of its names at once: the first one that has the name, as its own or as the one
that the database has for it, is taken. Where fields have distinct names one column at most has the
name as its own, but another one may stand in front of it that the database stores under this name.
Main statement: a relation is drawn as the column of its name demands exactly when no such column
stands in front of it, or the first one demands the same marks.
-/

namespace SchemaBook

open Mermaid

/-- The first of the columns in front of a column that the database stores under its name. -/
def Model.shadowing? (m : Model) (column : Field) : Option Field :=
  (m.columns.takeWhile (·.name != column.name)).find? (·.dbName == some column.name)

/-- The marks at the owner's end of a relation in a list of models, as a column demands them. -/
def ownerMarks (models : List Model) (owner : Model) (field column : Field) : Multiplicity :=
  ownerEnd column (oppositeField? (modelIndex models).toList owner field)

/-- A relation with the line that a column demands. -/
def drawnAs (models : List Model) (owner : Model) (field : Field) (target : Model)
    (column : Field) : DrawnRelation where
  owner := owner
  field := field
  target := target
  line := relationshipLine owner.storageName (ownerMarks models owner field column)
    target.storageName (targetEnd owner target) field.name

theorem leftText_injective {a b : Multiplicity} (h : a.leftText = b.leftText) : a = b := by
  have hread := congrArg Multiplicity.ofLeft? h
  rw [Multiplicity.ofLeft?_leftText, Multiplicity.ofLeft?_leftText] at hread
  exact Option.some.inj hread

/-- The marks at the owner's end can be told from the line. -/
theorem relationshipLine_left_injective {source target name : Text} {a b right : Multiplicity}
    (h : relationshipLine source a target right name =
      relationshipLine source b target right name) : a = b := by
  simp only [relationshipLine, List.append_assoc] at h
  have hbehind := List.append_cancel_left (List.append_cancel_left h)
  exact leftText_injective (List.append_cancel_right hbehind)

/-- The column found for a name that is a column's own is the first one in front of it that the
database stores under this name, and without such a column it is the one of the name. -/
theorem localColumn?_name {m : Model} (hnames : (m.fields.map (·.name)).Nodup) {column : Field}
    (hcolumn : column ∈ m.columns) :
    localColumn? m column.name = some ((m.shadowing? column).getD column) := by
  obtain ⟨front, back, hsplit⟩ := List.append_of_mem hcolumn
  have hdistinct : (m.columns.map (·.name)).Nodup := (List.filter_sublist.map _).nodup hnames
  rw [hsplit, List.map_append, List.map_cons] at hdistinct
  have hfront : ∀ other ∈ front, other.name ≠ column.name := by
    intro other hother heq
    refine List.disjoint_of_nodup_append hdistinct (List.mem_map_of_mem hother) ?_
    rw [heq]
    exact List.mem_cons_self
  have hbefore : m.columns.takeWhile (·.name != column.name) = front := by
    rw [hsplit, List.takeWhile_append_of_pos (by simpa using hfront), List.takeWhile_cons_of_neg,
      List.append_nil]
    simp
  have hstored : front.find? (fun f => f.name == column.name || f.dbName == some column.name) =
      front.find? (·.dbName == some column.name) := by
    refine List.find?_congr fun other hother => ?_
    rw [beq_eq_false_iff_ne.2 (hfront other hother), Bool.false_or]
  rw [localColumn?, Model.shadowing?, hbefore, hsplit, List.find?_append, hstored,
    List.find?_cons_of_pos (by simp)]
  cases front.find? (·.dbName == some column.name) <;> rfl

/-- A relation with a column and a target in the group is drawn as the column demands. -/
theorem drawnAs_mem {models : List Model} {owner : Model} (howner : owner ∈ models) {field : Field}
    (hfield : field ∈ owner.relations) {name : Text} (hname : field.localColumns.head? = some name)
    {column : Field} (hcolumn : localColumn? owner name = some column) {target : Model}
    (htarget : (modelIndex models).find? field.type = some target) :
    drawnAs models owner field target column ∈ drawnRelations models := by
  refine mem_drawnRelations_iff.2 ⟨howner, hfield, ?_⟩
  change drawnRelation? (modelIndex models) owner field = _
  simp only [drawnRelation?, relationLine?, hname, hcolumn, htarget, Option.bind_eq_bind,
    Option.bind_some]
  rfl

theorem eq_of_mem_drawnRelations {models : List Model} {r d : DrawnRelation}
    (hr : r ∈ drawnRelations models) (hd : d ∈ drawnRelations models) (howner : r.owner = d.owner)
    (hfield : r.field = d.field) : r = d := by
  have hdrawn := (mem_drawnRelations_iff.1 hr).2.2
  rw [howner, hfield, (mem_drawnRelations_iff.1 hd).2.2] at hdrawn
  exact (Option.some.inj hdrawn).symm

/-- In a model with distinct field names, take a relation that names a column of the model and leads
into the group. It is drawn as the first column in front of the named one demands that the database
stores under this name, and as the named one demands where there is none. So its line is the one
that the named column demands exactly when a column in front of it of this kind demands the same
marks. -/
theorem drawn_as_namedColumn_iff {models : List Model} {text : Text}
    (h : diagram models = .ok text) {owner : Model} (howner : owner ∈ models)
    (hnames : (owner.fields.map (·.name)).Nodup) {field : Field} (hfield : field ∈ owner.relations)
    {column : Field} (hcolumn : column ∈ owner.columns)
    (hname : field.localColumns.head? = some column.name) {target : Model}
    (htarget : (modelIndex models).find? field.type = some target) :
    Text.splitWhere (· == .char '\n') text =
        openingLine :: models.flatMap boxLines ++ (drawnRelations models).map (·.line) ∧
      drawnAs models owner field target ((owner.shadowing? column).getD column) ∈
        drawnRelations models ∧
      ((∀ r ∈ drawnRelations models, r.owner = owner → r.field = field →
          r = drawnAs models owner field target column) ↔
        ∀ other ∈ owner.shadowing? column,
          ownerMarks models owner field other = ownerMarks models owner field column) := by
  have hdrawn := drawnAs_mem howner hfield hname (localColumn?_name hnames hcolumn) htarget
  refine ⟨by rw [splitWhere_of_diagram h, map_line_drawnRelations]; rfl, hdrawn, ?_, ?_⟩
  · intro hall other hother
    rw [hother, Option.getD_some] at hdrawn
    have hline := congrArg DrawnRelation.line (hall _ hdrawn rfl rfl)
    exact relationshipLine_left_injective hline
  · intro hmarks r hr hrowner hrfield
    rw [eq_of_mem_drawnRelations hr hdrawn hrowner hrfield]
    cases hother : owner.shadowing? column with
    | none => rfl
    | some other =>
      rw [Option.getD_some, drawnAs, drawnAs, hmarks other hother]

/-- The column of a book for its author. -/
def authorKey : Field := { name := "authorId", type := "Int", dbName := some "author_id" }

/-- A column of a book that the database stores under the name of the author's one. -/
def editorKey : Field :=
  { name := "editorId", type := "Int", dbName := some "authorId", isRequired := false }

def authorOfBook : Field :=
  { name := "author", type := "Author", kind := .relation, localColumns := [("authorId" : Text)] }

def authorModel : Model := { name := "Author" }

def bookWith (columns : List Field) : Model :=
  { name := "Book", fields := columns ++ [authorOfBook] }

/-- The author's model, and a book with the columns given. -/
def authoredBook (columns : List Field) : List Model := [authorModel, bookWith columns]

/-- Behind the author's column the editor's one does not matter. -/
theorem authoredBook_drawn_as_authorKey :
    ∃ text, diagram (authoredBook [authorKey, editorKey]) = .ok text ∧
      (("\"Book\" \x7d|--|| \"Author\" : author" : String) : Text) ∈
        Text.splitWhere (· == .char '\n') text ∧
      ∀ r ∈ drawnRelations (authoredBook [authorKey, editorKey]),
        r.owner = bookWith [authorKey, editorKey] → r.field = authorOfBook →
        r = drawnAs (authoredBook [authorKey, editorKey]) (bookWith [authorKey, editorKey])
          authorOfBook authorModel authorKey := by
  have hlabels : ∀ m ∈ authoredBook [authorKey, editorKey], labelFault? m.storageName = none := by
    decide +kernel
  have howner : bookWith [authorKey, editorKey] ∈ authoredBook [authorKey, editorKey] := by decide
  have hnames : ((bookWith [authorKey, editorKey]).fields.map (·.name)).Nodup := by decide
  have hfield : authorOfBook ∈ (bookWith [authorKey, editorKey]).relations := by decide
  have hcolumn : authorKey ∈ (bookWith [authorKey, editorKey]).columns := by decide
  have htarget : (modelIndex (authoredBook [authorKey, editorKey])).find? authorOfBook.type =
      some authorModel := by decide +kernel
  have hfree : (bookWith [authorKey, editorKey]).shadowing? authorKey = none := by decide +kernel
  have hdiagram := diagram_eq_ok_iff.2 ⟨hlabels, rfl⟩
  obtain ⟨hlines, hdrawn, hiff⟩ :=
    drawn_as_namedColumn_iff hdiagram howner hnames hfield hcolumn rfl htarget
  refine ⟨_, hdiagram, ?_, hiff.2 ?_⟩
  · rw [hlines]
    refine List.mem_append_right _ (List.mem_map.2 ⟨_, hdrawn, ?_⟩)
    decide +kernel
  · rw [hfree]
    exact nofun

/-- Behind the editor's column the author's one does not decide how the relation is drawn. -/
theorem not_all_drawn_as_namedColumn :
    ¬∀ models text owner field column target, diagram models = .ok text → owner ∈ models →
      (owner.fields.map (·.name)).Nodup → field ∈ owner.relations → column ∈ owner.columns →
      field.localColumns.head? = some column.name →
      (modelIndex models).find? field.type = some target →
      ∀ r ∈ drawnRelations models, r.owner = owner → r.field = field →
        r = drawnAs models owner field target column := by
  intro hall
  have hlabels : ∀ m ∈ authoredBook [editorKey, authorKey], labelFault? m.storageName = none := by
    decide +kernel
  have howner : bookWith [editorKey, authorKey] ∈ authoredBook [editorKey, authorKey] := by decide
  have hnames : ((bookWith [editorKey, authorKey]).fields.map (·.name)).Nodup := by decide
  have hfield : authorOfBook ∈ (bookWith [editorKey, authorKey]).relations := by decide
  have hcolumn : authorKey ∈ (bookWith [editorKey, authorKey]).columns := by decide
  have hfound : localColumn? (bookWith [editorKey, authorKey]) authorKey.name = some editorKey := by
    decide
  have htarget : (modelIndex (authoredBook [editorKey, authorKey])).find? authorOfBook.type =
      some authorModel := by decide +kernel
  have hdrawn := drawnAs_mem howner hfield rfl hfound htarget
  have hsame := hall _ _ _ _ _ _ (diagram_eq_ok_iff.2 ⟨hlabels, rfl⟩) howner hnames hfield hcolumn
    rfl htarget _ hdrawn rfl rfl
  have hmarks := relationshipLine_left_injective (congrArg DrawnRelation.line hsame)
  exact absurd hmarks (by decide +kernel)

end SchemaBook
