import SchemaBook.Proofs.Doc.Lines

/-!
Lines that end in line feeds, and carriage returns in front of these. Main statements: a text is its
lines joined, and lines that are joined are read back; when carriage returns belong to the line ends
too, a line in front of others is read without the one at its end.
-/

namespace SchemaBook

namespace Text

/-- Where an element is cut out, the pieces in front of it and behind it are those of the two
parts. -/
theorem splitWhere_append_cut {α : Type} {test : α → Bool} {a : α} (ha : test a = true)
    (xs ys : List α) :
    splitWhere test (xs ++ a :: ys) = splitWhere test xs ++ splitWhere test ys := by
  induction xs with
  | nil => simp [splitWhere, ha]
  | cons b rest ih =>
    cases hb : test b with
    | true => simp [splitWhere, hb, ih]
    | false =>
      obtain ⟨piece, pieces, hrest, hcons⟩ := exists_splitWhere_cons hb rest
      rw [List.cons_append, splitWhere, hb, ih, hrest, hcons]
      rfl

/-- The lines of a text in which a line feed ends a line and nothing else does. -/
def feedLines (text : Text) : List Text := splitWhere (· == .char '\n') text

theorem joinLines_feedLines (text : Text) : joinLines (feedLines text) = text :=
  intercalate_splitWhere fun _ _ hc => beq_iff_eq.1 hc

theorem mem_feedLines_iff {text : Text} {c : CodePoint} (hc : c ≠ '\n') :
    (∃ line ∈ feedLines text, c ∈ line) ↔ c ∈ text := by
  have hflat := flatten_splitWhere (· == CodePoint.char '\n') text
  rw [← List.mem_flatten, feedLines, hflat, List.mem_filter]
  simp [hc]

theorem feed_notMem_of_mem_feedLines {text line : Text} (h : line ∈ feedLines text) :
    CodePoint.char '\n' ∉ line := by
  intro hc
  have hnot := not_of_mem_splitWhere h hc
  rw [beq_self_eq_true] at hnot
  cases hnot

theorem feedLines_joinLines {pieces : List Text} (hne : pieces ≠ [])
    (h : ∀ piece ∈ pieces, CodePoint.char '\n' ∉ piece) :
    feedLines (joinLines pieces) = pieces := by
  have hfree : ∀ piece ∈ pieces, ∀ c ∈ piece, (c == CodePoint.char '\n') = false := by
    intro piece hpiece c hc
    rw [beq_eq_false_iff_ne]
    intro heq
    exact h piece hpiece (heq ▸ hc)
  apply splitWhere_intercalate _ hne hfree
  exact beq_self_eq_true (CodePoint.char '\n')

theorem feedLines_ne_nil (text : Text) : feedLines text ≠ [] := splitWhere_ne_nil _ text

theorem feedLines_append_feed (before after : Text) :
    feedLines (before ++ .char '\n' :: after) = feedLines before ++ feedLines after := by
  refine splitWhere_append_cut ?_ before after
  exact beq_self_eq_true (CodePoint.char '\n')

/-- Behind a line feed at the end there is one more line, which is empty. -/
theorem feedLines_concat_feed (text : Text) :
    feedLines (text ++ [.char '\n']) = feedLines text ++ [[]] :=
  feedLines_append_feed text []

/-- The last line is empty only in an empty text and behind a line feed. -/
theorem eq_nil_or_concat_feed {text : Text} (h : (feedLines text).getLast? = some []) :
    text = [] ∨ ∃ before, text = before ++ [.char '\n'] := by
  obtain ⟨before, hlines⟩ := List.getLast?_eq_some_iff.1 h
  have htext := joinLines_feedLines text
  rw [hlines] at htext
  by_cases hnone : before = []
  · rw [hnone] at htext
    exact .inl htext.symm
  · rw [joinLines_concat hnone] at htext
    exact .inr ⟨_, htext.symm⟩

theorem feedLines_of_notMem {line : Text} (h : CodePoint.char '\n' ∉ line) :
    feedLines line = [line] := by
  refine splitWhere_of_forall_not fun c hc => beq_eq_false_iff_ne.2 ?_
  rintro rfl
  exact h hc

/-- The line without a carriage return at its end. -/
def withoutReturn (line : Text) : Text :=
  if line.getLast? = some (.char '\r') then line.dropLast else line

theorem joinReturns_of_feed_notMem {cs : Text} (h : CodePoint.char '\n' ∉ cs) :
    joinReturns cs = cs := by
  fun_induction joinReturns cs with
  | case1 rest ih => exact absurd (List.mem_cons_of_mem _ List.mem_cons_self) h
  | case2 c rest _ ih => rw [ih fun hmem => h (List.mem_cons_of_mem c hmem)]
  | case3 => rfl

/-- Two texts may be joined after their line ends were, unless they meet within a line end. -/
theorem joinReturns_append {before after : Text}
    (h : before.getLast? = some (.char '\r') → after.head? ≠ some (.char '\n')) :
    joinReturns (before ++ after) = joinReturns before ++ joinReturns after := by
  fun_induction joinReturns before with
  | case1 rest ih =>
    have hrest : rest.getLast? = some (.char '\r') → after.head? ≠ some (.char '\n') := by
      intro hlast
      exact h (by simp [List.getLast?_cons, hlast])
    rw [List.cons_append, List.cons_append, joinReturns, ih hrest, List.cons_append]
  | case2 c rest hform ih =>
    have hrest : rest.getLast? = some (.char '\r') → after.head? ≠ some (.char '\n') := by
      intro hlast
      exact h (by simp [List.getLast?_cons, hlast])
    rw [List.cons_append, joinReturns, ih hrest, List.cons_append]
    intro more hc hmore
    cases rest with
    | nil =>
      rw [List.nil_append] at hmore
      exact h (congrArg some hc) (congrArg List.head? hmore)
    | cons d rest =>
      obtain ⟨rfl, -⟩ := List.cons.inj hmore
      exact hform rest hc rfl
  | case3 => rfl

/-- A carriage return at the end of a line is part of the line end behind it. -/
theorem joinReturns_append_feed (line rest : Text) :
    joinReturns (line ++ .char '\n' :: rest) =
      joinReturns (withoutReturn line) ++ .char '\n' :: joinReturns rest := by
  have hfeed : joinReturns (.char '\n' :: rest) = .char '\n' :: joinReturns rest :=
    joinReturns_cons (by decide) rest
  unfold withoutReturn
  split
  · next hlast =>
    obtain ⟨front, rfl⟩ := List.getLast?_eq_some_iff.1 hlast
    have hmeet : front.getLast? = some (.char '\r') →
        (CodePoint.char '\r' :: .char '\n' :: rest).head? ≠ some (.char '\n') := by
      intro _
      simp
    rw [List.append_assoc, List.singleton_append, joinReturns_append hmeet, joinReturns,
      List.dropLast_concat]
  · next hlast =>
    rw [joinReturns_append fun h => absurd h hlast, hfeed]

theorem joinLines_cons_of_ne_nil (line : Text) {rest : List Text} (h : rest ≠ []) :
    joinLines (line :: rest) = line ++ .char '\n' :: joinLines rest := by
  obtain ⟨next, more, rfl⟩ := List.exists_cons_of_ne_nil h
  rw [joinLines, join, List.intercalate_cons_cons, List.append_assoc]
  rfl

/-- The last of the lines may be joined of lines itself. -/
theorem joinLines_append (lines : List Text) {rest : List Text} (h : rest ≠ []) :
    joinLines (lines ++ rest) = joinLines (lines ++ [joinLines rest]) := by
  induction lines with
  | nil =>
    rw [List.nil_append, List.nil_append, joinLines_singleton]
  | cons line more ih =>
    rw [List.cons_append, List.cons_append, joinLines_cons_of_ne_nil line (by simp [h]), ih,
      joinLines_cons_of_ne_nil line (by simp)]

/-- Lines in front of a text lose the carriage returns at their ends, and the text is read as it is
alone. -/
theorem feedLines_joinReturns_concat {lines : List Text}
    (h : ∀ line ∈ lines, CodePoint.char '\n' ∉ line) (last : Text) :
    feedLines (joinReturns (joinLines (lines ++ [last]))) =
      lines.map withoutReturn ++ feedLines (joinReturns last) := by
  induction lines with
  | nil => rw [List.nil_append, joinLines_singleton, List.map_nil, List.nil_append]
  | cons line rest ih =>
    rw [List.forall_mem_cons] at h
    have hline : CodePoint.char '\n' ∉ withoutReturn line := by
      unfold withoutReturn
      split
      · exact fun hmem => h.1 (List.mem_of_mem_dropLast hmem)
      · exact h.1
    rw [List.cons_append, joinLines_cons_of_ne_nil line (by simp), joinReturns_append_feed,
      feedLines_append_feed, ih h.2, joinReturns_of_feed_notMem hline, feedLines_of_notMem hline]
    rfl

/-- The lines of a text behind which others stand are those that it has alone, unless a carriage
return at its end becomes part of a line end. -/
theorem feedLines_joinReturns_append {text : Text} (h : text.getLast? ≠ some (.char '\r'))
    (after : Text) :
    feedLines (joinReturns (text ++ .char '\n' :: after)) =
      feedLines (joinReturns text) ++ feedLines (joinReturns after) := by
  rw [joinReturns_append_feed, withoutReturn, if_neg h, feedLines_append_feed]

end Text

end SchemaBook
