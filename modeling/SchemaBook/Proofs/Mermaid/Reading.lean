import SchemaBook.Proofs.Mermaid.Forms

/-!
What a label shows to the reader of a diagram. The codes in a label are read back as the marks that
they stand for; a number sign has no code, so a text that holds the letters of a code is shown as if
it held the mark. Main statements: two texts have the same label exactly when they are shown alike,
and the texts that are labels as they stand are those that have the form of a label.
-/

namespace SchemaBook.Mermaid

/-- The marks with what stands behind the number sign of their codes. -/
def codeTails : List (CodePoint × Text) :=
  [('&', "amp;"), ('<', "lt;"), ('>', "gt;"), ('"', "quot;"), ('|', "124;")]

/-- The mark whose code goes on with the text behind a number sign, with the tail of that code. -/
def codeAt? (text : Text) : Option (CodePoint × Text) :=
  codeTails.find? fun entry => entry.2.isPrefixOf text

/-- The text with every code in it as the mark that it stands for. -/
def readCodes (text : Text) : Text :=
  match text with
  | [] => []
  | c :: rest =>
    match if c = .char '#' then codeAt? rest else none with
    | some (mark, tail) => mark :: readCodes (rest.drop tail.length)
    | none => c :: readCodes rest
termination_by text.length
decreasing_by
  · simp only [List.length_drop, List.length_cons]
    omega
  · simp

/-- What the label of a text shows: references expanded, single spaces for white space, and marks
for codes. -/
def shownText (text : Text) : Text :=
  readCodes (Text.join " " (Text.words (Text.expand text)))

theorem labelCode_of_notMem {c : CodePoint} (h : c ∉ labelMarks) : labelCode c = [c] := by
  have hmarks : ∀ mark ∈ labelMarks, c ≠ mark := by
    rintro mark hmark rfl
    exact h hmark
  unfold labelCode
  split
  case h_6 => rfl
  all_goals exact absurd rfl (hmarks _ (by decide))

theorem flatMap_labelCode_of_unmarked {text : Text} (h : ∀ c ∈ text, c ∉ labelMarks) :
    text.flatMap labelCode = text := by
  have hcodes : text.flatMap labelCode = text.flatMap fun c => [c] :=
    List.flatMap_congr fun c hc => labelCode_of_notMem (h c hc)
  rw [hcodes, List.flatMap_singleton']

theorem labelCode_of_mem_codeTails :
    ∀ entry ∈ codeTails, labelCode entry.1 = .char '#' :: entry.2 := by decide

theorem exists_codeTail : ∀ mark ∈ labelMarks, ∃ entry ∈ codeTails, entry.1 = mark := by decide

/-- No code holds a second number sign or a mark. -/
theorem codeTails_plain :
    ∀ entry ∈ codeTails, ∀ c ∈ entry.2, c ≠ .char '#' ∧ c ∉ labelMarks := by decide

/-- What is written as codes holds a text of plain characters in front only where the text held it
itself. -/
theorem prefix_flatMap_labelCode_iff {plain text : Text}
    (h : ∀ c ∈ plain, c ≠ .char '#' ∧ c ∉ labelMarks) :
    plain <+: text.flatMap labelCode ↔ plain <+: text := by
  induction plain generalizing text with
  | nil => simp
  | cons c plain ih =>
    obtain ⟨hsign, hunmarked⟩ := h c List.mem_cons_self
    have hrest : ∀ d ∈ plain, d ≠ .char '#' ∧ d ∉ labelMarks := fun d hd =>
      h d (List.mem_cons_of_mem c hd)
    cases text with
    | nil => simp
    | cons d text =>
      rw [List.flatMap_cons]
      by_cases hd : d ∈ labelMarks
      · obtain ⟨entry, hentry, rfl⟩ := exists_codeTail d hd
        have hne : c ≠ entry.1 := by
          rintro rfl
          exact hunmarked hd
        rw [labelCode_of_mem_codeTails entry hentry]
        simp [List.cons_prefix_cons, hsign, hne]
      · rw [labelCode_of_notMem hd, List.singleton_append, List.cons_prefix_cons,
          List.cons_prefix_cons, ih hrest]

/-- At most one code goes on with a text: no tail of a code starts the tail of another one. -/
theorem codeAt?_eq_some_iff {text : Text} {entry : CodePoint × Text} :
    codeAt? text = some entry ↔ entry ∈ codeTails ∧ entry.2 <+: text := by
  have hfree : ∀ entry ∈ codeTails, ∀ other ∈ codeTails, entry.2 <+: other.2 → entry = other := by
    decide
  have hfound : ∀ found, codeAt? text = some found → found ∈ codeTails ∧ found.2 <+: text := by
    intro found h
    unfold codeAt? at h
    have hprefix : found.2.isPrefixOf text = true := by
      simpa only using List.find?_some h
    exact ⟨List.mem_of_find?_eq_some h, List.isPrefixOf_iff_prefix.1 hprefix⟩
  constructor
  · exact hfound entry
  · rintro ⟨hentry, hprefix⟩
    have hsome : (codeAt? text).isSome :=
      List.find?_isSome.2 ⟨entry, hentry, List.isPrefixOf_iff_prefix.2 hprefix⟩
    obtain ⟨found, h⟩ := Option.isSome_iff_exists.1 hsome
    obtain ⟨hmem, hother⟩ := hfound found h
    rw [h]
    rcases List.prefix_or_prefix_of_prefix hother hprefix with hshort | hlong
    · rw [hfree found hmem entry hentry hshort]
    · rw [hfree entry hentry found hmem hlong]

theorem codeAt?_flatMap_labelCode (text : Text) :
    codeAt? (text.flatMap labelCode) = codeAt? text := by
  ext entry
  rw [codeAt?_eq_some_iff, codeAt?_eq_some_iff]
  refine and_congr_right fun hentry => ?_
  exact prefix_flatMap_labelCode_iff (codeTails_plain entry hentry)

theorem readCodes_code {entry : CodePoint × Text} (h : entry ∈ codeTails) (rest : Text) :
    readCodes (.char '#' :: entry.2 ++ rest) = entry.1 :: readCodes rest := by
  have hcode : codeAt? (entry.2 ++ rest) = some entry :=
    codeAt?_eq_some_iff.2 ⟨h, List.prefix_append _ _⟩
  rw [List.cons_append, readCodes, if_pos rfl, hcode]
  dsimp only
  rw [List.drop_left]

theorem readCodes_cons {c : CodePoint} {rest : Text} (h : c = .char '#' → codeAt? rest = none) :
    readCodes (c :: rest) = c :: readCodes rest := by
  have hnone : (if c = .char '#' then codeAt? rest else none) = none := by
    split
    · next hc => exact h hc
    · rfl
  rw [readCodes, hnone]

/-- Reading goes on after a character in the same way whether it was written as a code or not. -/
theorem readCodes_labelCode_append {c : CodePoint} {rest : Text}
    (h : c = .char '#' → codeAt? rest = none) :
    readCodes (labelCode c ++ rest) = c :: readCodes rest := by
  by_cases hc : c ∈ labelMarks
  · obtain ⟨entry, hentry, rfl⟩ := exists_codeTail c hc
    rw [labelCode_of_mem_codeTails entry hentry, readCodes_code hentry]
  · rw [labelCode_of_notMem hc, List.singleton_append, readCodes_cons h]

theorem flatMap_labelCode_tail {entry : CodePoint × Text} (h : entry ∈ codeTails) :
    entry.2.flatMap labelCode = entry.2 :=
  flatMap_labelCode_of_unmarked fun c hc => (codeTails_plain entry h c hc).2

/-- A code that stands in a text is not changed when the text is written as codes. -/
theorem flatMap_labelCode_code {entry : CodePoint × Text} (h : entry ∈ codeTails) (rest : Text) :
    (.char '#' :: entry.2 ++ rest : Text).flatMap labelCode =
      .char '#' :: entry.2 ++ rest.flatMap labelCode := by
  have hsign : labelCode (.char '#') = [.char '#'] := labelCode_of_notMem (by decide)
  rw [List.flatMap_append, List.flatMap_cons, hsign, flatMap_labelCode_tail h,
    List.singleton_append]

theorem exists_of_codeAt? {c : CodePoint} {rest : Text} {entry : CodePoint × Text}
    (h : (if c = .char '#' then codeAt? rest else none) = some entry) :
    entry ∈ codeTails ∧ ∃ more, c :: rest = .char '#' :: entry.2 ++ more ∧
      rest.drop entry.2.length = more := by
  split at h
  · next hc =>
    obtain ⟨hentry, more, hrest⟩ := codeAt?_eq_some_iff.1 h
    subst hc hrest
    exact ⟨hentry, more, rfl, List.drop_left⟩
  · cases h

/-- What is written as codes is read back, and codes that were there before are read with it. -/
theorem readCodes_flatMap_labelCode (text : Text) :
    readCodes (text.flatMap labelCode) = readCodes text := by
  fun_induction readCodes text with
  | case1 =>
    rw [List.flatMap_nil, readCodes]
  | case2 c rest mark tail hread ih =>
    obtain ⟨hentry, more, htext, hmore⟩ := exists_of_codeAt? hread
    dsimp only at htext hmore
    rw [hmore] at ih ⊢
    rw [htext, flatMap_labelCode_code hentry, readCodes_code hentry, ih]
  | case3 c rest hread ih =>
    have hnone : c = .char '#' → codeAt? rest = none := by
      intro hc
      rwa [dif_pos hc] at hread
    rw [List.flatMap_cons, readCodes_labelCode_append, ih]
    rwa [codeAt?_flatMap_labelCode]

/-- A code that is read back as its mark is written as the same code again. -/
theorem flatMap_labelCode_readCodes (text : Text) :
    (readCodes text).flatMap labelCode = text.flatMap labelCode := by
  fun_induction readCodes text with
  | case1 => rfl
  | case2 c rest mark tail hread ih =>
    obtain ⟨hentry, more, htext, hmore⟩ := exists_of_codeAt? hread
    rw [htext, flatMap_labelCode_code hentry, List.flatMap_cons,
      labelCode_of_mem_codeTails _ hentry, ih, hmore]
  | case3 c rest hread ih => rw [List.flatMap_cons, List.flatMap_cons, ih]

theorem labelText_eq_flatMap (text : Text) :
    labelText text = (shownText text).flatMap labelCode :=
  (flatMap_labelCode_readCodes _).symm

theorem readCodes_labelText (text : Text) : readCodes (labelText text) = shownText text :=
  readCodes_flatMap_labelCode _

/-- Two texts have the same label exactly when they are shown alike. -/
theorem labelText_eq_labelText_iff {a b : Text} :
    labelText a = labelText b ↔ shownText a = shownText b := by
  constructor
  · intro h
    rw [← readCodes_labelText, ← readCodes_labelText, h]
  · intro h
    rw [labelText_eq_flatMap, labelText_eq_flatMap, h]

-- A mark and its code have one label.
example : labelText "a < b" = labelText "a #lt; b" := by decide +kernel

/-- A text without ampersands holds no references. -/
theorem expand_of_notMem {text : Text} (h : CodePoint.char '&' ∉ text) :
    Text.expand text = text := by
  unfold Text.expand
  induction text with
  | nil => rw [Text.references, List.flatMap_nil]
  | cons c rest ih =>
    have hc : c ≠ .char '&' := fun hc => h (hc ▸ List.mem_cons_self)
    have hrest := ih fun hmem => h (List.mem_cons_of_mem c hmem)
    rw [Text.references, if_neg hc, List.flatMap_cons, hrest]
    rfl

namespace IsLabel

theorem isBlank_eq_false {text : Text} (h : IsLabel text) {c : CodePoint} (hc : c ∈ text)
    (hspace : c ≠ .char ' ') : c.isBlank = false := by
  rw [← Bool.not_eq_true]
  exact fun hblank => hspace (h.blank c hc hblank)

theorem join_words {text : Text} (h : IsLabel text) : Text.join " " (Text.words text) = text := by
  by_cases hne : text = []
  · subst hne
    rfl
  · have hpieces : [] ∉ Text.splitWhere CodePoint.isBlank text := by
      apply Text.nil_notMem_splitWhere hne
      · intro c hc
        refine h.isBlank_eq_false (List.mem_of_mem_head? hc) ?_
        rintro rfl
        exact h.start hc
      · refine List.IsChain.imp_of_mem_imp ?_ h.single
        rintro c d hc hd hsingle ⟨hcblank, hdblank⟩
        exact hsingle ⟨h.blank c hc hcblank, h.blank d hd hdblank⟩
      · intro c hc
        refine h.isBlank_eq_false (List.mem_of_getLast? hc) ?_
        rintro rfl
        exact h.finish hc
    have hwords : Text.words text = Text.splitWhere CodePoint.isBlank text := by
      refine List.filter_eq_self.2 ?_
      intro piece hpiece
      have hpiece : piece ≠ [] := fun hnil => hpieces (hnil ▸ hpiece)
      simpa using hpiece
    rw [hwords]
    exact Text.intercalate_splitWhere h.blank

end IsLabel

/-- The texts that are labels as they stand are those that have the form of a label. -/
theorem labelText_eq_self_iff {text : Text} : labelText text = text ↔ IsLabel text := by
  constructor
  · intro h
    rw [← h]
    exact isLabel_labelText text
  · intro h
    have hplain : CodePoint.char '&' ∉ text := fun hmem => h.unmarked _ hmem (by decide)
    rw [labelText, expand_of_notMem hplain, h.join_words, flatMap_labelCode_of_unmarked h.unmarked]

end SchemaBook.Mermaid
