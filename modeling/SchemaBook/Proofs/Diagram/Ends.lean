import SchemaBook.Proofs.Diagram.Headers
import SchemaBook.Proofs.Diagram.Restriction

/-!
The ends of the relations in a diagram. A relationship line and the boxes are written apart from
each other: the target is looked up among the names of the group while every model has a box, and
the column that decides the marks at the owner's end is looked up by a name while the mark of a
foreign key in the box asks all relations of the model. Main statement: the two agree. Both labels
of a relationship line are those of boxes in the same diagram, and the box of its owner has a line
for the column that marks it as a foreign key, also where several models have one name.
-/

namespace SchemaBook

open Mermaid

/-- The elements of a list at every second place. -/
def everySecond {α : Type} : List α → List α
  | _ :: a :: rest => a :: everySecond rest
  | _ => []

/-- The texts that stand between quotation marks in a line. -/
def quotedTexts (line : Text) : List Text :=
  everySecond (Text.splitWhere (· == .char '"') line)

/-- A line in a box for a column that it marks as a foreign key. -/
inductive MarksForeignKey (column : Field) : Text → Prop where
  | intro {keys : List Text} (nullable : Bool) (hkeys : keys.Sublist keyWords)
      (hforeign : ("FK" : Text) ∈ keys) :
      MarksForeignKey column ("  " ++ word column.type ++ " " ++ word column.storageName ++
        keyPart keys ++ nullablePart nullable)

/-- What a drawn relation has in the diagram of its group: a box for each of its labels, and in the
box of its owner a line for the column that decides its marks. -/
structure DrawnRelation.HasEnds (r : DrawnRelation) (models : List Model) (text : Text) :
    Prop where
  owner : r.owner ∈ models
  field : r.field ∈ r.owner.relations
  labels : ∃ source target, quotedTexts r.line = [source, target] ∧
    (∃ header ∈ headerLines text, quotedTexts header = [source]) ∧
    ∃ header ∈ headerLines text, quotedTexts header = [target]
  column : ∃ name column opposite, r.field.localColumns.head? = some name ∧
    localColumn? r.owner name = some column ∧
    r.line = relationshipLine r.owner.storageName (ownerEnd column opposite) r.target.storageName
      (targetEnd r.owner r.target) r.field.name ∧
    ∃ line ∈ boxLines r.owner, MarksForeignKey column line

theorem quotedTexts_of_notMem {line : Text} (h : CodePoint.char '"' ∉ line) :
    quotedTexts line = [] := by
  have hnone : ∀ c ∈ line, (c == CodePoint.char '"') = false := fun c hc =>
    beq_eq_false_iff_ne.2 fun heq => h (heq ▸ hc)
  rw [quotedTexts, Text.splitWhere_of_forall_not hnone]
  rfl

theorem quotedTexts_append {front quoted : Text} (hfront : CodePoint.char '"' ∉ front)
    (hquoted : CodePoint.char '"' ∉ quoted) (rest : Text) :
    quotedTexts (front ++ .char '"' :: (quoted ++ .char '"' :: rest)) =
      quoted :: quotedTexts rest := by
  have hcut : ∀ {piece : Text}, CodePoint.char '"' ∉ piece → ∀ behind : Text,
      Text.splitWhere (· == .char '"') (piece ++ .char '"' :: behind) =
        piece :: Text.splitWhere (· == .char '"') behind := by
    intro piece hpiece behind
    refine Text.splitWhere_append_cons (fun c hc => ?_) (beq_self_eq_true _)
    exact beq_eq_false_iff_ne.2 fun heq => hpiece (heq ▸ hc)
  rw [quotedTexts, hcut hfront, hcut hquoted]
  rfl

theorem quote_notMem_labelText (name : Text) : CodePoint.char '"' ∉ labelText name := fun h =>
  (isLabel_labelText name).unmarked _ h (by decide)

theorem quotedTexts_headerLine (name : Text) :
    quotedTexts (headerLine name) = [labelText name] := by
  have hline : headerLine name =
      [] ++ .char '"' :: (labelText name ++ .char '"' :: ((" \x7b" : String) : Text)) := by
    rw [headerLine_eq, List.append_assoc]
    rfl
  rw [hline, quotedTexts_append List.not_mem_nil (quote_notMem_labelText name),
    quotedTexts_of_notMem (by decide)]

theorem quotedTexts_relationshipLine (source target name : Text) (left right : Multiplicity) :
    quotedTexts (relationshipLine source left target right name) =
      [labelText source, labelText target] := by
  have hline : relationshipLine source left target right name =
      [] ++ .char '"' :: (labelText source ++ .char '"' ::
        ((" " ++ left.leftText ++ "--" ++ right.rightText ++ " " : Text) ++ .char '"' ::
          (labelText target ++ .char '"' :: (" : " ++ word name : Text)))) := by
    simp only [relationshipLine, entityLabel, inQuotes, List.append_assoc]
    rfl
  have hmarks : CodePoint.char '"' ∉
      (" " ++ left.leftText ++ "--" ++ right.rightText ++ " " : Text) := by
    rcases left with ⟨_ | _, _ | _⟩ <;> rcases right with ⟨_ | _, _ | _⟩ <;> decide
  have hend : CodePoint.char '"' ∉ (" : " ++ word name : Text) := by
    rw [List.mem_append, not_or]
    exact ⟨by decide, (isWord_word name).notMem (by decide) (by decide) (by decide)⟩
  rw [hline, quotedTexts_append List.not_mem_nil (quote_notMem_labelText source),
    quotedTexts_append hmarks (quote_notMem_labelText target), quotedTexts_of_notMem hend]

/-- The column that a relation is stored in is a foreign key, by whichever of its names it was
found. -/
theorem isForeignKey_of_localColumn? {m : Model} {r : Field} (hr : r ∈ m.relations) {name : Text}
    (hname : r.localColumns.head? = some name) {column : Field}
    (hcolumn : localColumn? m name = some column) : m.isForeignKey column = true := by
  have hmem : name ∈ r.localColumns := List.mem_of_mem_head? hname
  refine List.any_eq_true.2 ⟨r, hr, ?_⟩
  have hfound := List.find?_some hcolumn
  rw [Bool.or_eq_true, beq_iff_eq, beq_iff_eq] at hfound
  rw [Bool.or_eq_true]
  rcases hfound with rfl | hstored
  · exact .inl (List.contains_iff_mem.2 hmem)
  · rw [hstored]
    exact .inr (List.contains_iff_mem.2 hmem)

theorem marksForeignKey_columnLine {m : Model} {column : Field}
    (h : m.isForeignKey column = true) :
    MarksForeignKey column ("  " ++ columnLine m column) := by
  have hforeign : KeyMark.text .foreign ∈ (column.keyMarks true).map KeyMark.text := by
    refine List.mem_map_of_mem ?_
    simp [Field.keyMarks]
  have hform : MarksForeignKey column _ :=
    .intro (!column.isRequired) (keyMarks_sublist column true) hforeign
  rw [columnLine_eq, h]
  simpa only [List.append_assoc] using hform

/-- A relation that is drawn, opened. -/
theorem exists_of_mem_drawnRelations {models : List Model} {r : DrawnRelation}
    (h : r ∈ drawnRelations models) :
    r.owner ∈ models ∧ r.field ∈ r.owner.relations ∧ r.target ∈ models ∧
      ∃ name column, r.field.localColumns.head? = some name ∧
        localColumn? r.owner name = some column ∧
        r.line = relationshipLine r.owner.storageName
          (ownerEnd column (oppositeField? (modelIndex models).toList r.owner r.field))
          r.target.storageName (targetEnd r.owner r.target) r.field.name := by
  obtain ⟨howner, hfield, hdrawn⟩ := mem_drawnRelations_iff.1 h
  unfold drawnRelation? relationLine? at hdrawn
  simp only [Option.bind_eq_bind, Option.bind_eq_some_iff] at hdrawn
  obtain ⟨target, htarget, line, ⟨name, hname, column, hcolumn, other, hother, hline⟩, hr⟩ := hdrawn
  obtain rfl := Option.some.inj (htarget.symm.trans hother)
  have hgroup : target ∈ (modelIndex models).toList := List.mem_of_find?_eq_some htarget
  have hends := Option.some.inj hr
  obtain rfl : target = r.target := congrArg DrawnRelation.target hends
  obtain rfl : line = r.line := congrArg DrawnRelation.line hends
  exact ⟨howner, hfield, OrderedSet.mem_of_mem_ofList hgroup, name, column, hname, hcolumn,
    (Option.some.inj hline).symm⟩

theorem exists_header {models : List Model} {text : Text} (h : diagram models = .ok text)
    {m : Model} (hm : m ∈ models) :
    ∃ header ∈ headerLines text, quotedTexts header = [labelText m.storageName] := by
  refine ⟨headerLine m.storageName, ?_, quotedTexts_headerLine _⟩
  rw [headerLines_of_diagram h]
  exact List.mem_map_of_mem hm

/-- A diagram is its opening line, the boxes of its models and the lines of the relations that are
drawn. Each of these lines has its two labels from headers of boxes in the diagram. It is drawn as
the column demands that was found for the relation, and in the box of the relation's owner there is
a line that marks this column as a foreign key. -/
theorem relationshipLines_have_ends {models : List Model} {text : Text}
    (h : diagram models = .ok text) :
    Text.splitWhere (· == .char '\n') text =
        openingLine :: models.flatMap boxLines ++ (drawnRelations models).map (·.line) ∧
      ∀ r ∈ drawnRelations models, r.HasEnds models text := by
  refine ⟨by rw [splitWhere_of_diagram h, map_line_drawnRelations]; rfl, fun r hr => ?_⟩
  obtain ⟨howner, hfield, htarget, name, column, hname, hcolumn, hline⟩ :=
    exists_of_mem_drawnRelations hr
  have hlabels := quotedTexts_relationshipLine r.owner.storageName r.target.storageName
    r.field.name (ownerEnd column (oppositeField? (modelIndex models).toList r.owner r.field))
    (targetEnd r.owner r.target)
  rw [← hline] at hlabels
  have hbox : ("  " ++ columnLine r.owner column : Text) ∈ boxLines r.owner := by
    have hmem : column ∈ r.owner.columns := List.mem_of_find?_eq_some hcolumn
    refine List.mem_append_left _ (List.mem_cons_of_mem _ ?_)
    exact List.mem_map_of_mem (List.mem_map_of_mem hmem)
  constructor
  case owner => exact howner
  case field => exact hfield
  case labels => exact ⟨_, _, hlabels, exists_header h howner, exists_header h htarget⟩
  case column =>
    have hforeign := isForeignKey_of_localColumn? hfield hname hcolumn
    exact ⟨name, column, _, hname, hcolumn, hline, _, hbox, marksForeignKey_columnLine hforeign⟩

/-- Two authors of one name, and a book whose relation names its column as the database does. -/
def sharedAuthors : List Model :=
  [{ name := "Author", dbName := some "writers" }, { name := "Author", dbName := some "people" },
    { name := "Book"
      fields := [{ name := "authorId", type := "Int", dbName := some "author_id" },
        { name := "author", type := "Author", kind := .relation
          localColumns := [("author_id" : Text)] }] }]

/-- The book's relation is drawn to the first author, and its ends have their boxes. -/
theorem sharedAuthors_have_ends :
    ∃ text, diagram sharedAuthors = .ok text ∧ ∃ r ∈ drawnRelations sharedAuthors,
      r.line = "\"Book\" \x7d|--|| \"writers\" : author" ∧ r.HasEnds sharedAuthors text := by
  have hdrawn : diagram sharedAuthors = .ok (Text.joinLines (diagramLines sharedAuthors)) :=
    diagram_eq_ok_iff.2 ⟨by decide +kernel, rfl⟩
  have hlines : (drawnRelations sharedAuthors).map (·.line) =
      [("\"Book\" \x7d|--|| \"writers\" : author" : Text)] := by decide +kernel
  obtain ⟨r, hr, hline⟩ := List.mem_map.1 (hlines ▸ List.mem_singleton_self _)
  exact ⟨_, hdrawn, r, hr, hline, (relationshipLines_have_ends hdrawn).2 r hr⟩

end SchemaBook
