import SchemaBook.Proofs.Doc.JoinChapters
import SchemaBook.Proofs.Wording.Document

/-!
Line ends in documentation. A text whose line ends are written with carriage returns has the lines
that it has with bare line feeds. Main statement: the document of a schema without carriage returns
in its documentation is the one of the schema with a carriage return before every line feed.
-/

namespace SchemaBook

namespace Text

/-- The text with a carriage return before every line feed. -/
def withReturns (cs : Text) : Text :=
  cs.flatMap fun (c : CodePoint) => if c = '\n' then ['\r', '\n'] else [c]

/-- The text with bare line feeds, where that leaves no carriage return. A text in which some
carriage returns belong to no line end stays as it is, since another line feed behind one of them
would make it part of a line end. -/
def withFeeds (cs : Text) : Text := if .char '\r' ∈ joinReturns cs then cs else joinReturns cs

theorem joinReturns_withReturns {cs : Text} (h : CodePoint.char '\r' ∉ cs) :
    joinReturns (withReturns cs) = cs := by
  induction cs with
  | nil => rfl
  | cons c rest ih =>
    rw [List.mem_cons, not_or] at h
    have hrest := ih h.2
    rw [withReturns, List.flatMap_cons, ← withReturns]
    by_cases hfeed : c = .char '\n'
    · subst hfeed
      rw [if_pos rfl]
      exact congrArg (List.cons _) hrest
    · rw [if_neg hfeed, List.singleton_append, joinReturns_cons (Ne.symm h.1), hrest]

theorem withFeeds_withReturns {cs : Text} (h : CodePoint.char '\r' ∉ cs) :
    withFeeds (withReturns cs) = cs := by
  rw [withFeeds, joinReturns_withReturns h, if_neg h]

theorem withFeeds_of_notMem {cs : Text} (h : CodePoint.char '\r' ∉ cs) : withFeeds cs = cs := by
  rw [withFeeds, joinReturns_of_notMem h, if_neg h]

theorem lines_withFeeds (cs : Text) : lines (withFeeds cs) = lines cs := by
  unfold withFeeds
  split
  · rfl
  · next hfree =>
    have hempty : (joinReturns cs).isEmpty = cs.isEmpty := by
      rw [Bool.eq_iff_iff, List.isEmpty_iff, List.isEmpty_iff, joinReturns_eq_nil_iff]
    rw [lines, lines, joinReturns_of_notMem hfree, hempty]

end Text

theorem notMem_joinDocumentation {lesser greater : Model} {text : Text}
    (h : joinDocumentation lesser greater = some text) : CodePoint.char '\r' ∉ text := by
  unfold joinDocumentation at h
  split at h
  · cases h
  · obtain rfl := Option.some.inj h
    intro hmem
    rcases Text.mem_joinLines hmem with hend | ⟨line, hline, hreturn⟩
    · exact absurd hend (by decide)
    · exact absurd (isBlank_of_mem_joinTagLine hline _ hreturn) (by decide)

theorem keepsLines_withFeeds : KeepsLines (Option.map Text.withFeeds) where
  lines := by
    intro documentation
    cases documentation with
    | none => rfl
    | some text => exact Text.lines_withFeeds text
  none := rfl
  join := by
    intro lesser greater
    cases hjoin : joinDocumentation lesser greater with
    | none => rfl
    | some text => exact congrArg some (Text.withFeeds_of_notMem (notMem_joinDocumentation hjoin))

/-- The model with a carriage return before every line feed of its documentation. -/
def Model.withReturns (m : Model) : Model := m.reworded (Option.map Text.withReturns)

/-- Whether no documentation of a model, its own or that of its fields, has a carriage return. -/
structure Model.FreeOfReturns (m : Model) : Prop where
  own : ∀ text ∈ m.documentation, CodePoint.char '\r' ∉ text
  fields : ∀ f ∈ m.fields, ∀ text ∈ f.documentation, CodePoint.char '\r' ∉ text

theorem map_withFeeds_withReturns {documentation : Option Text}
    (h : ∀ text ∈ documentation, CodePoint.char '\r' ∉ text) :
    (documentation.map Text.withReturns).map Text.withFeeds = documentation := by
  cases documentation with
  | none => rfl
  | some text => exact congrArg some (Text.withFeeds_withReturns (h text rfl))

theorem Model.reworded_withReturns {m : Model} (h : m.FreeOfReturns) :
    m.withReturns.reworded (Option.map Text.withFeeds) = m := by
  have hfields : (m.fields.map (·.reworded (Option.map Text.withReturns))).map
      (·.reworded (Option.map Text.withFeeds)) = m.fields := by
    rw [List.map_map]
    refine (List.map_congr_left fun f hf => ?_).trans (List.map_id _)
    rw [Function.comp_apply, Field.reworded, Field.reworded,
      map_withFeeds_withReturns (h.fields f hf)]
    rfl
  rw [withReturns, reworded, reworded, hfields, map_withFeeds_withReturns h.own]

/-- The document does not depend on how lines end in documentation: a carriage return before every
line feed, in the documentation of models and fields that has no carriage return, changes neither
the text nor the fault in its place. -/
theorem writeDocument_withReturns {models : List Model} (h : ∀ m ∈ models, m.FreeOfReturns)
    (config : Entries) :
    writeDocument (models.map Model.withReturns) config = writeDocument models config := by
  have hback : (models.map Model.withReturns).map (·.reworded (Option.map Text.withFeeds)) =
      models := by
    rw [List.map_map]
    exact (List.map_congr_left fun m hm => Model.reworded_withReturns (h m hm)).trans
      (List.map_id _)
  rw [← writeDocument_reworded keepsLines_withFeeds (models.map Model.withReturns), hback]

/-- Two models in a chapter that their second lines name, and one that its last line hides. -/
def linedModels : List Model :=
  [{ name := "Author", documentation := some "Who writes.\n@namespace people\n"
     fields := [{ name := "id", type := "Int", documentation := some "Counts.\n\nNever reused." },
       { name := "books", type := "Book", kind := .relation, isList := true }] },
    { name := "Book", documentation := some "See {@link Author}.\n@erd people"
      fields := [{ name := "authors", type := "Author", kind := .relation, isList := true,
                   documentation := some "@minItems 1\n" }] },
    { name := "Draft", documentation := some "Not for print.\n@hidden" }]

/-- Another way to end their lines makes other models, but no other document. -/
theorem linedModels_withReturns :
    (∀ m ∈ linedModels, m.FreeOfReturns) ∧
      linedModels.map Model.withReturns ≠ linedModels ∧
        ∀ config, writeDocument (linedModels.map Model.withReturns) config =
          writeDocument linedModels config := by
  have hown : ∀ m ∈ linedModels, ∀ text ∈ m.documentation, CodePoint.char '\r' ∉ text := by decide
  have hfields : ∀ m ∈ linedModels, ∀ f ∈ m.fields, ∀ text ∈ f.documentation,
      CodePoint.char '\r' ∉ text := by decide
  have hfree : ∀ m ∈ linedModels, m.FreeOfReturns := fun m hm => ⟨hown m hm, hfields m hm⟩
  exact ⟨hfree, by decide, fun config => writeDocument_withReturns hfree config⟩

end SchemaBook
