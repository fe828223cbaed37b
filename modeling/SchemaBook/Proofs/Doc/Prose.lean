import SchemaBook.Proofs.Doc.Links
import SchemaBook.Proofs.Text.Feeds

/-!
The prose of a documentation text. Lines that are blank or start with an at sign are dropped at its
ends and nowhere else, and links are resolved line by line. That a line stays no such line when its
links are resolved rests on its first character: it is kept, or it was the brace of a link and
becomes a bracket. Main statement: the prose is the run of lines from the first to the last one that
is neither blank nor a tag line, such lines may be put around a text without any effect, and none of
them stands at an end of the prose.
-/

namespace SchemaBook

open Text

/-- Whether a line is dropped at the ends of a documentation text: it is blank, or an at sign stands
in it behind white space alone. -/
inductive IsEdgeLine : Text → Prop where
  | blank {line : Text} (hblank : ∀ c ∈ line, c.isBlank = true) : IsEdgeLine line
  | tag {gap rest : Text} (hgap : ∀ c ∈ gap, c.isBlank = true) :
      IsEdgeLine (gap ++ .char '@' :: rest)

theorem head?_trim (cs : Text) : (trim cs).head? = cs.find? (!·.isBlank) := by
  obtain ⟨⟨front, back, hcs, hfront, hback⟩, hstart, -⟩ := trim_eq_iff.1 (rfl : trim cs = trim cs)
  have hnone : ∀ piece : Text, (∀ c ∈ piece, c.isBlank = true) →
      piece.find? (!·.isBlank) = none := fun piece h =>
    List.find?_eq_none.2 fun c hc => by simp [h c hc]
  conv_rhs => rw [hcs]
  rw [List.find?_append, hnone front hfront, Option.none_or, List.find?_append, hnone back hback,
    Option.or_none]
  cases hcore : trim cs with
  | nil => rfl
  | cons c rest =>
    have hc := hstart c (by rw [hcore]; rfl)
    rw [List.find?_cons_of_pos (by simp [hc]), List.head?_cons]

theorem isBlankOrTag_eq (line : Text) :
    isBlankOrTag line = (line.find? (!·.isBlank)).all (· == .char '@') := by
  rw [isBlankOrTag, head?_trim]

theorem isBlankOrTag_iff {line : Text} : isBlankOrTag line = true ↔ IsEdgeLine line := by
  rw [isBlankOrTag_eq]
  constructor
  · intro h
    cases hfirst : line.find? (!·.isBlank) with
    | none => exact .blank fun c hc => by simpa using List.find?_eq_none.1 hfirst c hc
    | some c =>
      rw [hfirst, Option.all_some, beq_iff_eq] at h
      obtain ⟨-, gap, rest, rfl, hgap⟩ := List.find?_eq_some_iff_append.1 hfirst
      subst h
      exact .tag fun d hd => by simpa using hgap d hd
  · intro h
    cases h with
    | blank hblank =>
      rw [List.find?_eq_none.2 fun c hc => by simp [hblank c hc]]
      rfl
    | @tag gap rest hgap =>
      have hnone : gap.find? (!·.isBlank) = none :=
        List.find?_eq_none.2 fun c hc => by simp [hgap c hc]
      rw [List.find?_append, hnone]
      rfl

/-- A line with its links resolved is an edge line where it was one before, and only there. -/
theorem isBlankOrTag_resolve (line : Text) :
    isBlankOrTag (Link.resolve line) = isBlankOrTag line := by
  rw [isBlankOrTag_eq, isBlankOrTag_eq]
  rcases Link.find?_resolve line with hsame | ⟨hbrace, hbracket⟩
  · rw [hsame]
  · rw [hbrace, hbracket]
    rfl

theorem isBlankOrTag_withoutReturn (line : Text) :
    isBlankOrTag (withoutReturn line) = isBlankOrTag line := by
  unfold withoutReturn
  split
  · next hlast =>
    obtain ⟨front, rfl⟩ := List.getLast?_eq_some_iff.1 hlast
    have hreturn : ([CodePoint.char '\r'] : Text).find? (!·.isBlank) = none := by decide
    rw [List.dropLast_concat, isBlankOrTag_eq, isBlankOrTag_eq, List.find?_append, hreturn,
      Option.or_none]
  · rfl

/-- An empty text has one line, which is blank, so it needs no case of its own. -/
theorem proseLines_some (text : Text) :
    proseLines (some text) =
      (dropEdges isBlankOrTag (feedLines (joinReturns text))).map Link.resolve := by
  cases text with
  | nil => rfl
  | cons c rest => rfl

theorem feed_notMem_of_mem_documentationLines {documentation : Option Text} {line : Text}
    (h : line ∈ documentationLines documentation) : CodePoint.char '\n' ∉ line := by
  unfold documentationLines lines at h
  split at h
  · cases h
  · exact feed_notMem_of_mem_feedLines h

theorem feed_notMem_resolve {line : Text} (h : CodePoint.char '\n' ∉ line) :
    CodePoint.char '\n' ∉ Link.resolve line := by
  intro hmem
  rcases Link.mem_resolve hmem with hline | hmark
  · exact h hline
  · exact absurd hmark (by decide)

theorem feed_notMem_of_mem_proseLines {documentation : Option Text} {line : Text}
    (h : line ∈ proseLines documentation) : CodePoint.char '\n' ∉ line := by
  obtain ⟨written, hwritten, rfl⟩ := List.mem_map.1 h
  have hmem : written ∈ documentationLines documentation :=
    (isBetweenEdges_dropEdges isBlankOrTag _).subset hwritten
  exact feed_notMem_resolve (feed_notMem_of_mem_documentationLines hmem)

/-- Lines that are joined are read back but for carriage returns at their ends, and these do not
matter to what an edge line is. -/
theorem map_isBlankOrTag_joinLines {lines : List Text} (hne : lines ≠ [])
    (h : ∀ line ∈ lines, CodePoint.char '\n' ∉ line) :
    (feedLines (joinReturns (joinLines lines))).map isBlankOrTag = lines.map isBlankOrTag := by
  obtain ⟨init, last, rfl⟩ := (List.eq_nil_or_concat' lines).resolve_left hne
  obtain ⟨hinit, hlast⟩ := List.forall_mem_append.1 h
  rw [List.forall_mem_singleton] at hlast
  have hreturns : init.map (isBlankOrTag ∘ withoutReturn) = init.map isBlankOrTag :=
    List.map_congr_left fun line _ => isBlankOrTag_withoutReturn line
  rw [feedLines_joinReturns_concat hinit, joinReturns_of_feed_notMem hlast,
    feedLines_of_notMem hlast, List.map_append, List.map_append, List.map_map, hreturns]

/-- Edge lines may be put around a text that does not end in a carriage return. -/
theorem proseLines_between {text : Text} (htext : text.getLast? ≠ some (.char '\r'))
    {before after : List Text}
    (h : ∀ line ∈ before ++ after, IsEdgeLine line ∧ CodePoint.char '\n' ∉ line) :
    proseLines (some (joinLines (before ++ text :: after))) = proseLines (some text) := by
  obtain ⟨hbefore, hafter⟩ := List.forall_mem_append.1 h
  have hfront : ∀ line ∈ before.map withoutReturn, isBlankOrTag line = true := by
    rw [List.forall_mem_map]
    intro line hline
    rw [isBlankOrTag_withoutReturn]
    exact isBlankOrTag_iff.2 (hbefore line hline).1
  have hbehind : ∃ back, (∀ line ∈ back, isBlankOrTag line = true) ∧
      feedLines (joinReturns (joinLines (text :: after))) =
        feedLines (joinReturns text) ++ back := by
    by_cases hnone : after = []
    · subst hnone
      refine ⟨[], nofun, ?_⟩
      rw [joinLines_singleton, List.append_nil]
    · refine ⟨feedLines (joinReturns (joinLines after)), ?_, ?_⟩
      · have hmarks := map_isBlankOrTag_joinLines hnone fun line hline => (hafter line hline).2
        intro line hline
        have hmem := List.mem_map_of_mem (f := isBlankOrTag) hline
        rw [hmarks] at hmem
        obtain ⟨other, hother, heq⟩ := List.mem_map.1 hmem
        rw [← heq]
        exact isBlankOrTag_iff.2 (hafter other hother).1
      · rw [joinLines_cons_of_ne_nil text hnone, feedLines_joinReturns_append htext]
  obtain ⟨back, hback, hlines⟩ := hbehind
  rw [proseLines_some, proseLines_some, joinLines_append before (List.cons_ne_nil text after),
    feedLines_joinReturns_concat fun line hline => (hbefore line hline).2, hlines,
    dropEdges_append hfront hback]

/-- The ends of the prose are those of its lines, also when it is read as documentation. -/
theorem map_isBlankOrTag_prose {documentation : Option Text} (h : prose documentation ≠ []) :
    (documentationLines (some (prose documentation))).map isBlankOrTag =
      (dropEdges isBlankOrTag (documentationLines documentation)).map isBlankOrTag := by
  have hne : proseLines documentation ≠ [] := by
    intro hnone
    rw [prose, hnone] at h
    exact h rfl
  have hread : documentationLines (some (prose documentation)) =
      feedLines (joinReturns (prose documentation)) := by
    rw [documentationLines, Option.getD_some, lines, if_neg (by simpa using h)]
    rfl
  rw [hread, prose, map_isBlankOrTag_joinLines hne fun _ => feed_notMem_of_mem_proseLines,
    proseLines, List.map_map]
  exact List.map_congr_left fun line _ => isBlankOrTag_resolve line

/-- The lines from the first to the last one that is no edge line. -/
structure IsRun (lines run : List Text) : Prop where
  split : ∃ front back, lines = front ++ (run ++ back) ∧ (∀ line ∈ front, IsEdgeLine line) ∧
    ∀ line ∈ back, IsEdgeLine line
  start : ∃ line, run.head? = some line ∧ ¬IsEdgeLine line
  finish : ∃ line, run.getLast? = some line ∧ ¬IsEdgeLine line

theorem isEdgeLine_all_or_isRun (lines : List Text) :
    (∀ line ∈ lines, IsEdgeLine line) ∧ dropEdges isBlankOrTag lines = [] ∨
      IsRun lines (dropEdges isBlankOrTag lines) := by
  have hnot : ∀ line, isBlankOrTag line = false → ¬IsEdgeLine line := by
    intro line hline hedge
    rw [isBlankOrTag_iff.2 hedge] at hline
    cases hline
  obtain ⟨⟨front, back, hlines, hfront, hback⟩, hstart, hfinish⟩ :=
    isBetweenEdges_dropEdges isBlankOrTag lines
  by_cases hrun : dropEdges isBlankOrTag lines = []
  · exact .inl ⟨fun line hline => isBlankOrTag_iff.1 (dropEdges_eq_nil_iff.1 hrun line hline), hrun⟩
  · have hfirst := List.head?_eq_some_head hrun
    have hlast := List.getLast?_eq_some_getLast hrun
    refine .inr ⟨⟨front, back, hlines, ?_, ?_⟩, ⟨_, hfirst, hnot _ (hstart _ hfirst)⟩,
      ⟨_, hlast, hnot _ (hfinish _ hlast)⟩⟩
    · exact fun line hline => isBlankOrTag_iff.1 (hfront line hline)
    · exact fun line hline => isBlankOrTag_iff.1 (hback line hline)

/-- An end of the prose is one of the run of lines that it is made of, so it is no edge line. -/
theorem not_isEdgeLine_of_end {documentation : Option Text} {line : Text}
    (h : line ∈ (documentationLines (some (prose documentation))).head? ∨
      line ∈ (documentationLines (some (prose documentation))).getLast?) : ¬IsEdgeLine line := by
  have hne : prose documentation ≠ [] := by
    intro hnone
    rw [hnone] at h
    rcases h with hfirst | hlast
    · cases hfirst
    · cases hlast
  have hmarks := map_isBlankOrTag_prose hne
  have hrun := isBetweenEdges_dropEdges isBlankOrTag (documentationLines documentation)
  have hkept : isBlankOrTag line = false := by
    rcases h with hfirst | hlast
    · have hmap := congrArg List.head? hmarks
      rw [List.head?_map, List.head?_map, Option.mem_def.1 hfirst, Option.map_some] at hmap
      obtain ⟨other, hother, heq⟩ := Option.map_eq_some_iff.1 hmap.symm
      rw [← heq, hrun.start other hother]
    · have hmap := congrArg List.getLast? hmarks
      rw [List.getLast?_map, List.getLast?_map, Option.mem_def.1 hlast, Option.map_some] at hmap
      obtain ⟨other, hother, heq⟩ := Option.map_eq_some_iff.1 hmap.symm
      rw [← heq, hrun.finish other hother]
  intro hedge
  rw [isBlankOrTag_iff.2 hedge] at hkept
  cases hkept

/-- The prose of a documentation text is empty where all its lines are edge lines, and else its run
of lines from the first to the last one that is none, each with its links resolved. Edge lines put
before and behind a text, on lines of their own, change nothing, where the text does not end in a
carriage return that would become part of a line end. Neither end of the prose is an edge line. -/
theorem prose_trims_edges :
    (∀ documentation,
      (∀ line ∈ documentationLines documentation, IsEdgeLine line) ∧ prose documentation = [] ∨
        ∃ run, IsRun (documentationLines documentation) run ∧
          prose documentation = joinLines (run.map Link.resolve)) ∧
    (∀ text before after, text.getLast? ≠ some (.char '\r') →
      (∀ line ∈ before ++ after, IsEdgeLine line ∧ CodePoint.char '\n' ∉ line) →
        prose (some (joinLines (before ++ text :: after))) = prose (some text)) ∧
    ∀ documentation line, line ∈ (documentationLines (some (prose documentation))).head? ∨
      line ∈ (documentationLines (some (prose documentation))).getLast? → ¬IsEdgeLine line := by
  refine ⟨fun documentation => ?_, ?_, fun _ _ => not_isEdgeLine_of_end⟩
  · refine (isEdgeLine_all_or_isRun (documentationLines documentation)).imp ?_ fun hrun => ?_
    · rintro ⟨hall, hnone⟩
      exact ⟨hall, by rw [prose, proseLines, hnone]; rfl⟩
    · exact ⟨_, hrun, rfl⟩
  · intro text before after htext hlines
    rw [prose, prose, proseLines_between htext hlines]

/-- Two lines with a blank and a tag between them, in which a link starts the first. -/
def invoiceText : Text := "\x7b@link Invoice\x7d totals.\r\n \r\n@erd kept\nIn cents."

def linesBefore : List Text := ["  @hidden\r", ""]

def linesBehind : List Text := ["\t"]

/-- Tags around the text are dropped, those in it are not. -/
theorem invoiceText_between_tags :
    prose (some invoiceText) = "[Invoice](#Invoice) totals.\n \n@erd kept\nIn cents." ∧
      invoiceText.getLast? ≠ some (.char '\r') ∧
      (∀ line ∈ linesBefore ++ linesBehind, IsEdgeLine line ∧ CodePoint.char '\n' ∉ line) ∧
      prose (some (joinLines (linesBefore ++ invoiceText :: linesBehind))) =
        prose (some invoiceText) ∧
      ¬IsEdgeLine "[Invoice](#Invoice) totals." := by
  have hprose : prose (some invoiceText) =
      "[Invoice](#Invoice) totals.\n \n@erd kept\nIn cents." := by decide +kernel
  have hlast : invoiceText.getLast? ≠ some (.char '\r') := by decide
  have hedges : ∀ line ∈ linesBefore ++ linesBehind,
      isBlankOrTag line = true ∧ CodePoint.char '\n' ∉ line := by decide
  have hlines : ∀ line ∈ linesBefore ++ linesBehind,
      IsEdgeLine line ∧ CodePoint.char '\n' ∉ line := fun line hline =>
    (hedges line hline).imp_left isBlankOrTag_iff.1
  obtain ⟨-, hbetween, hends⟩ := prose_trims_edges
  refine ⟨hprose, hlast, hlines, hbetween invoiceText _ _ hlast hlines, ?_⟩
  refine hends (some invoiceText) _ (.inl ?_)
  rw [hprose]
  decide +kernel

end SchemaBook
