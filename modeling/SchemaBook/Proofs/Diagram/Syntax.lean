import SchemaBook.Proofs.Mermaid.Forms
import SchemaBook.Schema.Diagram

/-!
The grammar of diagrams. Three forms of lines, and the box that is made of two of them, are stated
as predicates on written lines; they know nothing of models but the number of their columns. Main
statement: the text of a diagram is cut at its line feeds into the lines that were written, each of
its form, whatever the names and types in the models are.
-/

namespace SchemaBook

open Mermaid

/-- The words by which an attribute line tells that a column is a primary, a foreign or a unique
key, in the order in which they stand there. -/
def keyWords : List Text := [("PK" : Text), ("FK" : Text), ("UK" : Text)]

/-- The key words of an attribute line, with commas between them and a space in front. -/
def keyPart (keys : List Text) : Text := if keys = [] then [] else " " ++ Text.join "," keys

def nullablePart (nullable : Bool) : Text := if nullable then " \"nullable\"" else []

/-- Type and name as words, behind two spaces, then the key words and the mark of a nullable column
where there are any. -/
inductive IsAttributeLine : Text → Prop where
  | intro {type name : Text} {keys : List Text} (nullable : Bool) (htype : IsWord type)
      (hname : IsWord name) (hkeys : keys.Sublist keyWords) :
      IsAttributeLine ("  " ++ type ++ " " ++ name ++ keyPart keys ++ nullablePart nullable)

/-- The box of a model: a header with a label, an attribute line for each column, and the line that
closes the box. -/
inductive IsBoxOf (m : Model) : List Text → Prop where
  | intro {label : Text} {attributes : List Text} (hlabel : IsLabel label)
      (hcount : attributes.length = m.columns.length)
      (hattributes : ∀ line ∈ attributes, IsAttributeLine line) :
      IsBoxOf m (("\"" ++ label ++ "\" \x7b" : Text) :: attributes ++ [("\x7d" : Text)])

/-- The marks at the left and at the right end of a relationship. -/
def endMarks : List Text × List Text :=
  ([("|o" : Text), ("||" : Text), ("\x7do" : Text), ("\x7d|" : Text)],
    [("o|" : Text), ("||" : Text), ("o\x7b" : Text), ("|\x7b" : Text)])

/-- Two labels with a mark at either end of the line between them, and the name of the relation as a
word. -/
inductive IsRelationshipLine : Text → Prop where
  | intro {source left right target name : Text} (hsource : IsLabel source)
      (hleft : left ∈ endMarks.1) (hright : right ∈ endMarks.2) (htarget : IsLabel target)
      (hname : IsWord name) :
      IsRelationshipLine ("\"" ++ source ++ "\" " ++ left ++ "--" ++ right ++ " \"" ++ target ++
        "\" : " ++ name)

/-- Three backticks, which would end the block that a diagram stands in. -/
def fence : Text := "```"

/-- What keeps a line one line of its block. -/
structure StaysInBlock (line : Text) : Prop where
  lineFeed : CodePoint.char '\n' ∉ line
  fence : ¬fence <+: line

theorem not_fence_of_head {line : Text} {c : CodePoint} (h : line.head? = some c)
    (hc : c ≠ .char '`') : ¬fence <+: line := by
  obtain ⟨rest, rfl⟩ := List.head?_eq_some_iff.1 h
  intro hfence
  exact hc (List.cons_prefix_cons.1 hfence).1.symm

theorem IsAttributeLine.staysInBlock {line : Text} (h : IsAttributeLine line) :
    StaysInBlock line := by
  obtain ⟨nullable, htype, hname, hkeys⟩ := h
  have hkeyParts : ∀ keys ∈ keyWords.sublists, CodePoint.char '\n' ∉ keyPart keys := by decide
  have hnullable : CodePoint.char '\n' ∉ nullablePart nullable := by
    cases nullable <;> decide
  refine ⟨?_, not_fence_of_head rfl (by decide)⟩
  simp only [List.mem_append, not_or, and_assoc]
  exact ⟨by decide, htype.notMem_lineFeed, by decide, hname.notMem_lineFeed,
    hkeyParts _ (List.mem_sublists.2 hkeys), hnullable⟩

theorem IsBoxOf.staysInBlock {m : Model} {lines : List Text} (h : IsBoxOf m lines) :
    ∀ line ∈ lines, StaysInBlock line := by
  obtain ⟨hlabel, -, hattributes⟩ := h
  intro line hline
  simp only [List.cons_append, List.mem_cons, List.mem_append, List.not_mem_nil, or_false] at hline
  rcases hline with rfl | hattribute | rfl
  · refine ⟨?_, not_fence_of_head rfl (by decide)⟩
    simp only [List.mem_append, not_or, and_assoc]
    exact ⟨by decide, hlabel.notMem_lineFeed, by decide⟩
  · exact (hattributes line hattribute).staysInBlock
  · exact ⟨by decide, by decide⟩

theorem IsRelationshipLine.staysInBlock {line : Text} (h : IsRelationshipLine line) :
    StaysInBlock line := by
  obtain ⟨hsource, hleft, hright, htarget, hname⟩ := h
  have hmarks : (∀ mark ∈ endMarks.1, CodePoint.char '\n' ∉ mark) ∧
      ∀ mark ∈ endMarks.2, CodePoint.char '\n' ∉ mark := by decide
  refine ⟨?_, not_fence_of_head rfl (by decide)⟩
  simp only [List.mem_append, not_or, and_assoc]
  exact ⟨by decide, hsource.notMem_lineFeed, by decide, hmarks.1 _ hleft, by decide,
    hmarks.2 _ hright, by decide, htarget.notMem_lineFeed, by decide, hname.notMem_lineFeed⟩

theorem attributeLine_eq (type name keys : Text) (comment : Option Text) :
    attributeLine type name keys comment =
      word type ++ (" " : Text) ++ word name ++
        (if keys.isEmpty then [] else (" " : Text) ++ keys) ++
        (if (comment.getD []).isEmpty then []
          else (" " : Text) ++ inQuotes (labelText (comment.getD []))) := by
  unfold attributeLine
  dsimp only
  split <;> split <;> simp [Text.join, List.intercalate_cons_cons]

theorem labelText_nullableText :
    labelText FieldFacts.nullableText = FieldFacts.nullableText := by
  decide +kernel

theorem nullablePart_eq (nullable : Bool) :
    nullablePart nullable = (
      let comment := (if nullable then some FieldFacts.nullableText else none).getD []
      if comment.isEmpty then [] else (" " : Text) ++ inQuotes (labelText comment)) := by
  cases nullable with
  | false => rfl
  | true =>
    change _ = (" " : Text) ++ inQuotes (labelText FieldFacts.nullableText)
    rw [labelText_nullableText]
    rfl

theorem join_keyMarks_eq_nil_iff {marks : List KeyMark} :
    Text.join "," (marks.map KeyMark.text) = [] ↔ marks = [] := by
  cases marks with
  | nil => simp [Text.join]
  | cons mark rest =>
    have hmark : mark.text ≠ [] := by cases mark <;> decide
    simp [Text.join_cons_ne_nil "," hmark]

theorem keyMarks_sublist (f : Field) (isForeignKey : Bool) :
    ((f.keyMarks isForeignKey).map KeyMark.text).Sublist keyWords := by
  have hall : ∀ id foreign unique : Bool,
      (((if id then [KeyMark.primary] else []) ++ (if foreign then [KeyMark.foreign] else []) ++
        (if unique then [KeyMark.unique] else [])).map KeyMark.text).Sublist keyWords := by
    decide
  exact hall f.isId isForeignKey f.isUnique

theorem columnLine_eq (m : Model) (f : Field) :
    columnLine m f = word f.type ++ " " ++ word f.storageName ++
      keyPart ((f.keyMarks (m.isForeignKey f)).map KeyMark.text) ++
      nullablePart (!f.isRequired) := by
  rw [columnLine, attributeLine_eq, nullablePart_eq, keyPart]
  simp only [List.isEmpty_iff, List.map_eq_nil_iff, ← join_keyMarks_eq_nil_iff]
  rfl

theorem isAttributeLine_columnLine (m : Model) (f : Field) :
    IsAttributeLine ("  " ++ columnLine m f) := by
  have hform : IsAttributeLine _ := .intro (!f.isRequired) (isWord_word f.type)
    (isWord_word f.storageName) (keyMarks_sublist f (m.isForeignKey f))
  rw [columnLine_eq]
  simpa only [List.append_assoc] using hform

theorem headerLine_eq (name : Text) :
    headerLine name = "\"" ++ labelText name ++ "\" \x7b" := by
  have hend : (("\" \x7b" : String) : Text) = ("\"" : Text) ++ (" \x7b" : Text) := rfl
  rw [headerLine, entityLabel, inQuotes, hend]
  simp only [List.append_assoc]

theorem isBoxOf_boxLines (m : Model) : IsBoxOf m (boxLines m) := by
  rw [boxLines, entityLines, headerLine_eq]
  refine .intro (isLabel_labelText _) (by simp) ?_
  intro line hline
  obtain ⟨text, htext, rfl⟩ := List.mem_map.1 hline
  obtain ⟨f, -, rfl⟩ := List.mem_map.1 htext
  exact isAttributeLine_columnLine m f

theorem endMarks_of_multiplicity (m : Multiplicity) :
    m.leftText ∈ endMarks.1 ∧ m.rightText ∈ endMarks.2 := by
  rcases m with ⟨_ | _, _ | _⟩ <;> decide

theorem isRelationshipLine_relationshipLine (source target name : Text)
    (left right : Multiplicity) :
    IsRelationshipLine (relationshipLine source left target right name) := by
  have hform : IsRelationshipLine _ := .intro (isLabel_labelText source)
    (endMarks_of_multiplicity left).1 (endMarks_of_multiplicity right).2 (isLabel_labelText target)
    (isWord_word name)
  have hafter : (("\" " : String) : Text) = ("\"" : Text) ++ (" " : Text) := rfl
  have hbefore : ((" \"" : String) : Text) = (" " : Text) ++ ("\"" : Text) := rfl
  have hend : (("\" : " : String) : Text) = ("\"" : Text) ++ (" : " : Text) := rfl
  rw [relationshipLine, entityLabel, entityLabel, inQuotes, inQuotes]
  simpa only [hafter, hbefore, hend, List.append_assoc] using hform

theorem isRelationshipLine_of_mem {group : OrderedSet Model.name} {m : Model} {line : Text}
    (h : line ∈ relationLines group m) : IsRelationshipLine line := by
  obtain ⟨field, -, hdrawn⟩ := List.mem_filterMap.1 h
  unfold relationLine? at hdrawn
  simp only [Option.bind_eq_bind, Option.bind_eq_some_iff] at hdrawn
  obtain ⟨name, -, column, -, target, -, hline⟩ := hdrawn
  rw [← Option.some.inj hline]
  exact isRelationshipLine_relationshipLine _ _ _ _ _

theorem staysInBlock_of_mem_diagramLines {models : List Model} {line : Text}
    (h : line ∈ diagramLines models) : StaysInBlock line := by
  rcases List.mem_append.1 h with hbox | hrelation
  · rcases List.mem_cons.1 hbox with rfl | hbox
    · exact ⟨by decide, by decide⟩
    · obtain ⟨m, -, hline⟩ := List.mem_flatMap.1 hbox
      exact (isBoxOf_boxLines m).staysInBlock line hline
  · obtain ⟨m, -, hline⟩ := List.mem_flatMap.1 hrelation
    exact (isRelationshipLine_of_mem hline).staysInBlock

/-- A diagram can be written when every storage name can be a label. -/
theorem diagram_eq_ok_iff {models : List Model} {text : Text} :
    diagram models = .ok text ↔
      (∀ m ∈ models, labelFault? m.storageName = none) ∧
        text = Text.joinLines (diagramLines models) := by
  unfold diagram diagramFault?
  split
  · next fault hfault =>
    obtain ⟨m, hm, hat⟩ := List.exists_of_findSome?_eq_some hfault
    simp only [reduceCtorEq, false_iff, not_and]
    intro hnone
    rw [hnone m hm] at hat
    cases hat
  · next hnone =>
    rw [List.findSome?_eq_none_iff] at hnone
    constructor
    · intro h
      exact ⟨hnone, (Except.ok.inj h).symm⟩
    · rintro ⟨-, rfl⟩
      rfl

/-- The text of a diagram is cut at its line feeds into the lines that were written. -/
theorem splitWhere_of_diagram {models : List Model} {text : Text} (h : diagram models = .ok text) :
    Text.splitWhere (· == .char '\n') text = diagramLines models := by
  rw [(diagram_eq_ok_iff.1 h).2, Text.joinLines, Text.join]
  refine Text.splitWhere_intercalate ?_ (List.cons_ne_nil _ _) ?_
  · exact beq_self_eq_true _
  · intro line hline c hc
    rw [beq_eq_false_iff_ne]
    rintro rfl
    exact (staysInBlock_of_mem_diagramLines hline).lineFeed hc

/-- A diagram that can be written is well formed, whatever texts its models hold. Cut at its line
feeds it is the opening line, a box for each model in order, and relationship lines; these are the
lines that were written, so no name or type adds, splits or drops one, and none of them ends the
block that the diagram stands in. -/
theorem diagram_wellFormed {models : List Model} {text : Text} (h : diagram models = .ok text) :
    (∃ (boxes : List (List Text)) (relations : List Text),
        Text.splitWhere (· == .char '\n') text =
            ("erDiagram" : Text) :: boxes.flatten ++ relations ∧
          List.Forall₂ IsBoxOf models boxes ∧ ∀ line ∈ relations, IsRelationshipLine line) ∧
      Text.splitWhere (· == .char '\n') text = diagramLines models ∧
      ∀ line ∈ Text.splitWhere (· == .char '\n') text, ¬fence <+: line := by
  rw [splitWhere_of_diagram h]
  refine ⟨⟨models.map boxLines, models.flatMap (relationLines (modelIndex models)), rfl, ?_, ?_⟩,
    rfl, ?_⟩
  · rw [List.forall₂_map_right_iff, List.forall₂_same]
    exact fun m _ => isBoxOf_boxLines m
  · intro line hline
    obtain ⟨m, -, hrelation⟩ := List.mem_flatMap.1 hline
    exact isRelationshipLine_of_mem hrelation
  · intro line hline
    exact (staysInBlock_of_mem_diagramLines hline).fence

/-- A model whose texts hold quotes, line ends, references and backticks, and a relation of such a
model to itself. -/
def hostileModel : Model where
  name := "```\n\" &lt;|\r"
  fields := [{ name := "a\nb", type := "\"1", isRequired := false },
    { name := "```", type := "```\n\" &lt;|\r", kind := .relation,
      localColumns := [("a\nb" : Text)] }]

/-- The diagram of that model has its five lines. -/
theorem hostileModel_wellFormed :
    ∃ text, diagram [hostileModel] = .ok text ∧
      (Text.splitWhere (· == .char '\n') text).length = 5 ∧
      ∀ line ∈ Text.splitWhere (· == .char '\n') text, ¬fence <+: line := by
  have hdrawn : diagram [hostileModel] = .ok (Text.joinLines (diagramLines [hostileModel])) :=
    diagram_eq_ok_iff.2 ⟨by decide +kernel, rfl⟩
  obtain ⟨-, hlines, hfence⟩ := diagram_wellFormed hdrawn
  exact ⟨_, hdrawn, by rw [hlines]; decide, hfence⟩

end SchemaBook
