import SchemaBook.Proofs.Diagram.Syntax
import SchemaBook.Proofs.Mermaid.Reading
import SchemaBook.Proofs.Unambiguous

/-!
The headers of the boxes in a diagram. They are the only lines between a quote and an opening brace,
so they can be read off the text, and there is one for each model in order. The check that storage
names are distinct compares them as they are written in the schema; a diagram shows them with
references expanded, white space collapsed and codes read as marks. Main statement: the boxes of a
list without errors can be told apart exactly when no two storage names are shown alike, and they
can when the storage names are labels as they stand.
-/

namespace SchemaBook

open Mermaid

/-- Whether a line opens a box: it starts with a quote and ends in an opening brace. -/
def isHeaderLine (line : Text) : Bool :=
  line.head? == some (.char '"') && line.getLast? == some (.char '\x7b')

/-- The lines of a diagram that open its boxes. -/
def headerLines (text : Text) : List Text :=
  (Text.splitWhere (· == .char '\n') text).filter isHeaderLine

theorem isHeaderLine_headerLine (name : Text) : isHeaderLine (headerLine name) = true := by
  have hend : (headerLine name).getLast? = some (.char '\x7b') := by
    rw [headerLine, List.getLast?_append_of_ne_nil _ (by decide)]
    rfl
  rw [isHeaderLine, hend]
  rfl

theorem headerLine_eq_headerLine_iff {a b : Text} :
    headerLine a = headerLine b ↔ labelText a = labelText b := by
  rw [headerLine_eq, headerLine_eq, List.append_left_inj, List.append_right_inj]

theorem isHeaderLine_of_head {line : Text} {c : CodePoint} (h : line.head? = some c)
    (hc : c ≠ .char '"') : isHeaderLine line = false := by
  rw [isHeaderLine, h]
  simp [hc]

/-- A box has one header, the line with the storage name of its model. -/
theorem filter_isHeaderLine_boxLines (m : Model) :
    (boxLines m).filter isHeaderLine = [headerLine m.storageName] := by
  have hattributes : ((m.columns.map (columnLine m)).map fun line => ("  " : Text) ++ line).filter
      isHeaderLine = [] := by
    simp only [List.filter_eq_nil_iff, Bool.not_eq_true]
    intro line hline
    obtain ⟨text, -, rfl⟩ := List.mem_map.1 hline
    exact isHeaderLine_of_head rfl (by decide)
  rw [boxLines, entityLines, List.cons_append, List.filter_cons_of_pos (isHeaderLine_headerLine _),
    List.filter_append, hattributes]
  rfl

/-- A relationship line ends in a word, and a word holds no brace. -/
theorem IsRelationshipLine.isHeaderLine_eq_false {line : Text} (h : IsRelationshipLine line) :
    isHeaderLine line = false := by
  obtain ⟨-, -, -, -, hname⟩ := h
  have hbrace := hname.notMem (c := .char '\x7b') (by decide) (by decide) (by decide)
  obtain ⟨c, hc, -⟩ := hname.start
  have hne := List.ne_nil_of_mem (List.mem_of_mem_head? hc)
  rw [← Bool.not_eq_true]
  intro hheader
  rw [isHeaderLine, Bool.and_eq_true, beq_iff_eq, beq_iff_eq,
    List.getLast?_append_of_ne_nil _ hne] at hheader
  exact hbrace (List.mem_of_getLast? hheader.2)

theorem filter_isHeaderLine_diagramLines (models : List Model) :
    (diagramLines models).filter isHeaderLine = models.map (headerLine ·.storageName) := by
  have hopening : isHeaderLine openingLine = false := by decide
  have hboxes : (models.flatMap boxLines).filter isHeaderLine =
      models.map (headerLine ·.storageName) := by
    simp only [List.filter_flatMap, filter_isHeaderLine_boxLines]
    exact List.flatMap_pure_eq_map _ models
  have hrelations : (models.flatMap (relationLines (modelIndex models))).filter isHeaderLine =
      [] := by
    simp only [List.filter_eq_nil_iff, Bool.not_eq_true]
    intro line hline
    obtain ⟨m, -, hrelation⟩ := List.mem_flatMap.1 hline
    exact (isRelationshipLine_of_mem hrelation).isHeaderLine_eq_false
  rw [diagramLines, List.cons_append, List.filter_cons_of_neg (by simp [hopening]),
    List.filter_append, hboxes, hrelations, List.append_nil]

theorem headerLines_of_diagram {models : List Model} {text : Text}
    (h : diagram models = .ok text) :
    headerLines text = models.map (headerLine ·.storageName) := by
  rw [headerLines, splitWhere_of_diagram h, filter_isHeaderLine_diagramLines]

/-- The headers in the diagram of a list without errors are those of its models in order. They are
distinct exactly when no two storage names are shown alike. That storage names are distinct, which
the check of the list assures, is enough where each of them is a label as it stands. -/
theorem headerLines_nodup_iff {models : List Model} {text : Text}
    (hvalid : errorMessages models = []) (h : diagram models = .ok text) :
    headerLines text = models.map (headerLine ·.storageName) ∧
      ((headerLines text).Nodup ↔ (models.map (shownText ·.storageName)).Nodup) ∧
        ((∀ m ∈ models, IsLabel m.storageName) → (headerLines text).Nodup) := by
  have hheaders := headerLines_of_diagram h
  refine ⟨hheaders, ?_, ?_⟩
  · rw [hheaders, List.Nodup, List.pairwise_map, List.pairwise_map]
    apply List.Pairwise.iff
    intro m other
    rw [Ne, Ne, headerLine_eq_headerLine_iff, labelText_eq_labelText_iff]
  · intro hlabels
    have hnames := ((errorMessages_eq_nil_iff models).1 hvalid).storageNames
    have hwritten : ∀ a ∈ models.map (·.storageName), labelText a = a := by
      intro a ha
      obtain ⟨m, hm, rfl⟩ := List.mem_map.1 ha
      exact labelText_eq_self_iff.2 (hlabels m hm)
    have hmap : headerLines text = (models.map (·.storageName)).map headerLine := by
      rw [hheaders, List.map_map]
      rfl
    rw [hmap]
    refine List.Nodup.map_on ?_ hnames
    intro a ha b hb heq
    rw [← hwritten a ha, ← hwritten b hb]
    exact headerLine_eq_headerLine_iff.1 heq

/-- Two models with the storage names given. -/
def namedPair (first second : Text) : List Model :=
  [{ name := "A", dbName := some first }, { name := "B", dbName := some second }]

/-- The boxes of two models whose storage names hold a space and a low line are told apart. -/
theorem namedPair_told_apart :
    ∃ text, errorMessages (namedPair "order line" "order_line") = [] ∧
      diagram (namedPair "order line" "order_line") = .ok text ∧ (headerLines text).Nodup := by
  have hvalid : errorMessages (namedPair "order line" "order_line") = [] := by decide
  have hlabels : ∀ m ∈ namedPair "order line" "order_line", labelFault? m.storageName = none := by
    decide +kernel
  have hshown : ((namedPair "order line" "order_line").map (shownText ·.storageName)).Nodup := by
    decide +kernel
  have hdrawn := diagram_eq_ok_iff.2 ⟨hlabels, rfl⟩
  obtain ⟨-, hiff, -⟩ := headerLines_nodup_iff hvalid hdrawn
  exact ⟨_, hvalid, hdrawn, hiff.2 hshown⟩

/-- Two storage names that differ in the number of their spaces pass the check, and their boxes have
one header. -/
theorem not_all_headerLines_nodup :
    ¬∀ models text, errorMessages models = [] → diagram models = .ok text →
      (headerLines text).Nodup := by
  intro hall
  have hvalid : errorMessages (namedPair "order line" "order  line") = [] := by decide
  have hlabels : ∀ m ∈ namedPair "order line" "order  line", labelFault? m.storageName = none := by
    decide +kernel
  have halike : headerLine "order line" = headerLine "order  line" := by decide +kernel
  have hdrawn := diagram_eq_ok_iff.2 ⟨hlabels, rfl⟩
  have hnodup := hall _ _ hvalid hdrawn
  rw [headerLines_of_diagram hdrawn] at hnodup
  exact (List.nodup_cons.1 hnodup).1 (List.mem_singleton.2 halike)

end SchemaBook
