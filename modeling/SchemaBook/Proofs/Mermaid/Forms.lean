import SchemaBook.Mermaid.Text
import SchemaBook.Proofs.Doc.Lines

/-!
The forms of the texts that a diagram quotes or names. They are stated of the written text alone:
which characters it holds and where. Main statements: every text that is made a word has the form of
a word, and every text that is made a label has the form of a label, whatever it was before.
-/

namespace SchemaBook.Mermaid

/-- The hyphen and the brackets, which may stand in a word but not at its start. -/
def wordMarks : Text := "-[]()"

/-- The form of a word: a star or a word character that is no digit, and behind it word characters,
hyphens and brackets. -/
structure IsWord (text : Text) : Prop where
  start : ∃ c, text.head? = some c ∧ (c = .char '*' ∨ c.isWord = true ∧ c.isDigit = false)
  rest : ∀ c ∈ text.tail, c.isWord = true ∨ c ∈ wordMarks

/-- The characters that would end a label or start a code in it. -/
def labelMarks : Text := "\"<>|&"

/-- The form of a label: none of the marks, and no white space but single spaces between other
characters. -/
structure IsLabel (text : Text) : Prop where
  unmarked : ∀ c ∈ text, c ∉ labelMarks
  blank : ∀ c ∈ text, c.isBlank = true → c = .char ' '
  single : text.IsChain fun c d => ¬(c = .char ' ' ∧ d = .char ' ')
  start : text.head? ≠ some (.char ' ')
  finish : text.getLast? ≠ some (.char ' ')

theorem isWordPart_iff {c : CodePoint} :
    isWordPart c = true ↔ c.isWord = true ∨ c ∈ wordMarks := by
  simp [isWordPart, CodePoint.isOneOf, wordMarks, Text.ofString, Text.ofChars]

theorem isWord_word (text : Text) : IsWord (word text) := by
  have hlow : CodePoint.isWord (.char '_') = true ∧ CodePoint.isDigit (.char '_') = false := by
    decide
  have hkept : ∀ c ∈ (Text.trim text).map (fun c => if isWordPart c then c else .char '_'),
      c.isWord = true ∨ c ∈ wordMarks := by
    intro c hc
    obtain ⟨d, -, rfl⟩ := List.mem_map.1 hc
    split
    · next hd => exact isWordPart_iff.1 hd
    · exact .inl hlow.1
  unfold word
  dsimp only
  split
  · next hstart =>
    obtain ⟨c, hc, hword⟩ := (Option.any_eq_true _ _).1 hstart
    have hboth : c.isWord = true ∧ c.isDigit = false := by
      simpa [isWordStart] using hword
    refine ⟨⟨c, hc, .inr hboth⟩, ?_⟩
    intro d hd
    exact hkept d (List.mem_of_mem_tail hd)
  · exact ⟨⟨.char '_', rfl, .inr hlow⟩, hkept⟩

/-- A character of none of the kinds that a word is made of does not stand in it. -/
theorem IsWord.notMem {text : Text} (h : IsWord text) {c : CodePoint} (hword : c.isWord = false)
    (hstar : c ≠ .char '*') (hmark : c ∉ wordMarks) : c ∉ text := by
  have hnot : ¬c.isWord = true := by
    rw [hword]
    exact Bool.false_ne_true
  intro hmem
  obtain ⟨d, hd, hstart⟩ := h.start
  obtain ⟨rest, rfl⟩ := List.head?_eq_some_iff.1 hd
  rcases List.mem_cons.1 hmem with rfl | hrest
  · rcases hstart with hc | ⟨hc, -⟩
    · exact hstar hc
    · exact hnot hc
  · rcases h.rest _ hrest with hc | hc
    · exact hnot hc
    · exact hmark hc

theorem IsWord.notMem_lineFeed {text : Text} (h : IsWord text) : CodePoint.char '\n' ∉ text :=
  h.notMem (by decide) (by decide) (by decide)

theorem IsLabel.notMem_lineFeed {text : Text} (h : IsLabel text) : CodePoint.char '\n' ∉ text := by
  intro hmem
  exact absurd (h.blank _ hmem (by decide)) (by decide)

/-- What stands between the spaces of a label. -/
structure IsSolid (piece : Text) : Prop where
  ne_nil : piece ≠ []
  blank : ∀ c ∈ piece, c.isBlank = false
  unmarked : ∀ c ∈ piece, c ∉ labelMarks

namespace IsSolid

theorem ne_space {piece : Text} (h : IsSolid piece) : ∀ c ∈ piece, c ≠ .char ' ' := by
  rintro c hc rfl
  have hblank := h.blank _ hc
  exact absurd hblank (by decide)

theorem isLabel {piece : Text} (h : IsSolid piece) : IsLabel piece where
  unmarked := h.unmarked
  blank := by
    intro c hc hblank
    rw [h.blank c hc] at hblank
    cases hblank
  single := by
    refine (List.pairwise_of_forall_mem_list ?_).isChain
    rintro c hc d - ⟨hspace, -⟩
    exact h.ne_space c hc hspace
  start := by
    intro hhead
    exact h.ne_space _ (List.mem_of_mem_head? hhead) rfl
  finish := by
    intro hlast
    exact h.ne_space _ (List.mem_of_getLast? hlast) rfl

/-- A piece and a space may stand in front of a label. -/
theorem isLabel_append {piece rest : Text} (h : IsSolid piece) (hrest : IsLabel rest)
    (hne : rest ≠ []) : IsLabel (piece ++ .char ' ' :: rest) where
  unmarked := by
    intro c hc
    rcases List.mem_append.1 hc with hpiece | hbehind
    · exact h.unmarked c hpiece
    · rcases List.mem_cons.1 hbehind with rfl | hmem
      · decide
      · exact hrest.unmarked c hmem
  blank := by
    intro c hc hblank
    rcases List.mem_append.1 hc with hpiece | hbehind
    · exact h.isLabel.blank c hpiece hblank
    · rcases List.mem_cons.1 hbehind with rfl | hmem
      · rfl
      · exact hrest.blank c hmem hblank
  single := by
    refine List.isChain_append.2 ⟨h.isLabel.single, List.isChain_cons.2 ⟨?_, hrest.single⟩, ?_⟩
    · rintro d hd ⟨-, rfl⟩
      exact hrest.start hd
    · rintro c hc d - ⟨rfl, -⟩
      exact h.isLabel.finish hc
  start := by
    rw [List.head?_append_of_ne_nil _ h.ne_nil]
    exact h.isLabel.start
  finish := by
    rw [List.getLast?_append_cons, List.getLast?_cons_of_ne_nil hne]
    exact hrest.finish

end IsSolid

theorem isLabel_nil : IsLabel [] where
  unmarked := nofun
  blank := nofun
  single := .nil
  start := nofun
  finish := nofun

theorem isLabel_join {pieces : List Text} (h : ∀ piece ∈ pieces, IsSolid piece) :
    IsLabel (Text.join " " pieces) := by
  induction pieces with
  | nil => exact isLabel_nil
  | cons piece rest ih =>
    have hpiece := h piece List.mem_cons_self
    have hrest := ih fun other hother => h other (List.mem_cons_of_mem piece hother)
    cases rest with
    | nil =>
      rw [Text.join, List.intercalate_singleton]
      exact hpiece.isLabel
    | cons next rest =>
      have hnext := h next (List.mem_cons_of_mem piece List.mem_cons_self)
      rw [Text.join, List.intercalate_cons_cons, List.append_assoc]
      exact hpiece.isLabel_append hrest (Text.join_cons_ne_nil " " hnext.ne_nil rest)

/-- The marks have codes, and no code holds a mark or white space. -/
theorem isSolid_labelCode {c : CodePoint} (h : c.isBlank = false) : IsSolid (labelCode c) := by
  unfold labelCode
  split
  case h_6 hamp hless hmore hquote hbar =>
    have hmarks : c ∉ labelMarks := by
      change c ∉ ([.char '"', .char '<', .char '>', .char '|', .char '&'] : Text)
      simp only [List.mem_cons, List.not_mem_nil, or_false, not_or]
      exact ⟨hquote, hless, hmore, hbar, hamp⟩
    exact ⟨by simp, by simpa using h, by simpa using hmarks⟩
  all_goals exact ⟨by decide, by decide, by decide⟩

theorem isSolid_flatMap_labelCode {piece : Text} (hne : piece ≠ [])
    (h : ∀ c ∈ piece, c.isBlank = false) : IsSolid (piece.flatMap labelCode) where
  ne_nil := by
    obtain ⟨c, hc⟩ := List.exists_mem_of_ne_nil piece hne
    intro hnil
    exact (isSolid_labelCode (h c hc)).ne_nil (List.flatMap_eq_nil_iff.1 hnil c hc)
  blank := by
    intro d hd
    obtain ⟨c, hc, hcode⟩ := List.mem_flatMap.1 hd
    exact (isSolid_labelCode (h c hc)).blank d hcode
  unmarked := by
    intro d hd
    obtain ⟨c, hc, hcode⟩ := List.mem_flatMap.1 hd
    exact (isSolid_labelCode (h c hc)).unmarked d hcode

theorem isLabel_labelText (text : Text) : IsLabel (labelText text) := by
  have hpieces : labelText text =
      Text.join " " ((Text.words (Text.expand text)).map (·.flatMap labelCode)) :=
    Text.flatMap_intercalate labelCode " " _
  rw [hpieces]
  apply isLabel_join
  intro piece hpiece
  obtain ⟨w, hw, rfl⟩ := List.mem_map.1 hpiece
  exact isSolid_flatMap_labelCode (Text.ne_nil_of_mem_words hw) fun c hc =>
    Text.isBlank_of_mem_words hw hc

end SchemaBook.Mermaid
