import SchemaBook.Proofs.Diagram.Syntax

/-!
The names under which columns are drawn. A text of characters that may stand in a word is drawn as
it is when it starts like a word, and with a low line in front when it does not. Main statement: two
such texts become one word exactly when they are equal, or one is the other with the low line in
front that the other needs; only then do two columns of a model share an attribute name.
-/

namespace SchemaBook

theorem CodePoint.exists_range_of_inRanges {code : Nat} {ranges : List (Nat × Nat)}
    (h : inRanges code ranges = true) : ∃ range ∈ ranges, range.1 ≤ code ∧ code ≤ range.2 := by
  induction ranges with
  | nil => cases h
  | cons range rest ih =>
    simp only [inRanges] at h
    split at h
    · next hhigh => exact ⟨range, List.mem_cons_self, of_decide_eq_true h, hhigh⟩
    · obtain ⟨other, hother, hbounds⟩ := ih h
      exact ⟨other, List.mem_cons_of_mem range hother, hbounds⟩

/-- No code point is white space and a word character. -/
theorem CodePoint.isWord_eq_false_of_isBlank {c : CodePoint} (h : c.isBlank = true) :
    c.isWord = false := by
  have hall : ∀ range ∈ blankRanges, ∀ k < range.2 + 1 - range.1,
      inRanges (range.1 + k) Text.wordRanges = false := by
    decide +kernel
  obtain ⟨range, hrange, hlow, hhigh⟩ := exists_range_of_inRanges h
  have hcode := hall range hrange (c.toNat - range.1) (by omega)
  rwa [Nat.add_sub_cancel' hlow] at hcode

namespace Mermaid

/-- All characters may stand in a word; the first one need not be able to start one. -/
def HasWordParts (text : Text) : Prop := ∀ c ∈ text, isWordPart c = true

instance (text : Text) : Decidable (HasWordParts text) :=
  inferInstanceAs (Decidable (∀ c ∈ text, isWordPart c = true))

/-- The second text is the first one with the low line in front that it needs to be a word. -/
structure IsLowLined (text other : Text) : Prop where
  start : text.head?.any isWordStart = false
  eq : other = .char '_' :: text

theorem isBlank_eq_false_of_isWordPart {c : CodePoint} (h : isWordPart c = true) :
    c.isBlank = false := by
  have hmarks : ∀ d ∈ wordMarks, d.isBlank = false := by decide
  rcases isWordPart_iff.1 h with hword | hmark
  · rw [← Bool.not_eq_true]
    intro hblank
    rw [CodePoint.isWord_eq_false_of_isBlank hblank] at hword
    cases hword
  · exact hmarks c hmark

theorem word_of_hasWordParts {text : Text} (h : HasWordParts text) :
    word text = if text.head?.any isWordStart then text else .char '_' :: text := by
  have hkept : (text.map fun c => if isWordPart c then c else .char '_') = text := by
    conv_rhs => rw [← List.map_id' text]
    exact List.map_congr_left fun c hc => if_pos (h c hc)
  rw [word, Text.trim_of_forall_not_blank fun c hc => isBlank_eq_false_of_isWordPart (h c hc)]
  simp only [hkept]

/-- Two texts of word characters become one word exactly when they are equal or one is the other
with the low line that it needs. -/
theorem word_eq_word_iff {a b : Text} (ha : HasWordParts a) (hb : HasWordParts b) :
    word a = word b ↔ a = b ∨ IsLowLined a b ∨ IsLowLined b a := by
  have hlow : ∀ text : Text, (CodePoint.char '_' :: text).head?.any isWordStart = true :=
    fun _ => (by decide : isWordStart (.char '_') = true)
  rw [word_of_hasWordParts ha, word_of_hasWordParts hb]
  constructor
  · intro h
    cases hastart : a.head?.any isWordStart <;> cases hbstart : b.head?.any isWordStart <;>
      simp only [hastart, hbstart, if_true, if_false, Bool.false_eq_true] at h
    case false.false => exact .inl (List.cons.inj h).2
    case false.true => exact .inr (.inl ⟨hastart, h.symm⟩)
    case true.false => exact .inr (.inr ⟨hbstart, h⟩)
    case true.true => exact .inl h
  · rintro (rfl | ⟨hstart, rfl⟩ | ⟨hstart, rfl⟩)
    · rfl
    · rw [if_pos (hlow a), if_neg (by rw [hstart]; exact Bool.false_ne_true)]
    · rw [if_pos (hlow b), if_neg (by rw [hstart]; exact Bool.false_ne_true)]

theorem IsLowLined.ne {a b : Text} (h : IsLowLined a b) : a ≠ b := by
  rw [h.eq]
  exact (List.cons_ne_self _ _).symm

/-- Texts of word characters stay distinct as words exactly when they are distinct and none is
another one with the low line that it needs. -/
theorem nodup_map_word_iff {names : List Text} (h : ∀ name ∈ names, HasWordParts name) :
    (names.map word).Nodup ↔ names.Nodup ∧ ∀ a ∈ names, ∀ b ∈ names, ¬IsLowLined a b := by
  constructor
  · intro hwords
    refine ⟨hwords.of_map, fun a ha b hb hlined => hlined.ne ?_⟩
    apply List.inj_on_of_nodup_map hwords ha hb
    exact (word_eq_word_iff (h a ha) (h b hb)).2 (.inr (.inl hlined))
  · rintro ⟨hnames, hlined⟩
    refine hnames.map_on fun a ha b hb hword => ?_
    rcases (word_eq_word_iff (h a ha) (h b hb)).1 hword with heq | hab | hba
    · exact heq
    · exact absurd hab (hlined a ha b hb)
    · exact absurd hba (hlined b hb a ha)

theorem IsWord.ne_nil {text : Text} (h : IsWord text) : text ≠ [] := by
  obtain ⟨c, hc, -⟩ := h.start
  rintro rfl
  cases hc

theorem IsWord.not_blank {text : Text} (h : IsWord text) : ∀ c ∈ text, c.isBlank = false := by
  intro c hc
  rw [← Bool.not_eq_true]
  intro hblank
  refine h.notMem (CodePoint.isWord_eq_false_of_isBlank hblank) ?_ ?_ hc
  · rintro rfl
    exact absurd hblank (by decide)
  · have hmarks : ∀ d ∈ wordMarks, d.isBlank = false := by decide
    intro hmark
    rw [hmarks c hmark] at hblank
    cases hblank

end Mermaid

open Mermaid

/-- The name in an attribute line: its second word. -/
def attributeName (line : Text) : Text := Text.firstWord (Text.afterFirstWord line)

/-- The names in the attribute lines of a box. -/
def attributeNames (box : List Text) : List Text := box.tail.dropLast.map attributeName

/-- What stands behind the name in an attribute line starts with a space. -/
theorem isBlank_of_head_keyPart (keys : List Text) (nullable : Bool) :
    ∀ c ∈ (keyPart keys ++ nullablePart nullable).head?, c.isBlank = true := by
  have hspace : CodePoint.isBlank (.char ' ') = true := by decide
  intro c hc
  by_cases hkeys : keys = []
  · rw [keyPart, if_pos hkeys, List.nil_append] at hc
    cases nullable with
    | false => cases hc
    | true => exact Option.some.inj hc ▸ hspace
  · rw [keyPart, if_neg hkeys] at hc
    exact Option.some.inj hc ▸ hspace

/-- The name read off the line of a column is its storage name as a word. -/
theorem attributeName_columnLine (m : Model) (f : Field) :
    attributeName ("  " ++ columnLine m f) = word f.storageName := by
  have htype := isWord_word f.type
  have hname := isWord_word f.storageName
  have hindent : ∀ c ∈ ("  " : Text), c.isBlank = true := by decide
  have hspace : ∀ c ∈ (" " : Text), c.isBlank = true := by decide
  have hgap : ∀ rest : Text, ∀ c ∈ ((" " : Text) ++ rest).head?, c.isBlank = true :=
    fun _ c hc => Option.some.inj hc ▸ hspace (.char ' ') List.mem_cons_self
  rw [columnLine_eq, attributeName]
  simp only [List.append_assoc]
  rw [Text.afterFirstWord_append hindent htype.not_blank htype.ne_nil (hgap _),
    Text.firstWord_append hspace hname.not_blank hname.ne_nil (isBlank_of_head_keyPart _ _)]

theorem attributeNames_boxLines (m : Model) :
    attributeNames (boxLines m) = m.columns.map fun f => word f.storageName := by
  rw [attributeNames, boxLines, entityLines, List.tail_append_of_ne_nil (List.cons_ne_nil _ _),
    List.tail_cons, List.dropLast_concat, List.map_map, List.map_map]
  exact List.map_congr_left fun f _ => attributeName_columnLine m f

/-- Texts of word characters become different words unless one of them is the other with a low line
in front, and the other is empty or starts with a digit, a hyphen or a bracket. So two columns of a
model with such storage names are drawn under one name exactly when these are equal or differ by
such a low line alone, and where all columns have such names, the names in the box are distinct
exactly when no two columns are such a pair. -/
theorem attributeNames_distinct_iff :
    (∀ a b : Text, HasWordParts a → HasWordParts b →
      (word a = word b ↔ a = b ∨ IsLowLined a b ∨ IsLowLined b a)) ∧
    (∀ (m : Model) (f g : Field), HasWordParts f.storageName → HasWordParts g.storageName →
      (attributeName ("  " ++ columnLine m f) = attributeName ("  " ++ columnLine m g) ↔
        f.storageName = g.storageName ∨ IsLowLined f.storageName g.storageName ∨
          IsLowLined g.storageName f.storageName)) ∧
    ∀ m : Model, (∀ f ∈ m.columns, HasWordParts f.storageName) →
      ((attributeNames (boxLines m)).Nodup ↔
        (m.columns.map (·.storageName)).Nodup ∧
          ∀ f ∈ m.columns, ∀ g ∈ m.columns, ¬IsLowLined f.storageName g.storageName) := by
  refine ⟨fun a b => word_eq_word_iff, fun m f g hf hg => ?_, fun m h => ?_⟩
  · rw [attributeName_columnLine, attributeName_columnLine]
    exact word_eq_word_iff hf hg
  · have hwords := nodup_map_word_iff (List.forall_mem_map.2 h)
    rw [List.map_map] at hwords
    rw [attributeNames_boxLines]
    simp only [List.forall_mem_map] at hwords
    exact hwords

/-- A model with columns of other scripts, one that starts with a digit, and one in brackets. -/
def ledgerModel : Model where
  name := "Ledger"
  fields := [{ name := "名前", type := "String" }, { name := "住所", type := "String" },
    { name := "1st", type := "Int" }, { name := "[2]", type := "Int" }]

/-- The columns of that model are drawn under four names. -/
theorem ledgerModel_names_distinct :
    (∀ f ∈ ledgerModel.columns, HasWordParts f.storageName) ∧
      attributeNames (boxLines ledgerModel) = ["名前", "住所", "_1st", "_[2]"] ∧
      (attributeNames (boxLines ledgerModel)).Nodup := by
  have hparts : ∀ f ∈ ledgerModel.columns, HasWordParts f.storageName := by decide +kernel
  refine ⟨hparts, by decide +kernel, ?_⟩
  refine (attributeNames_distinct_iff.2.2 ledgerModel hparts).2 ⟨by decide, ?_⟩
  intro f hf g hg hlined
  have hother : ∀ f ∈ ledgerModel.columns, ∀ g ∈ ledgerModel.columns,
      g.storageName ≠ .char '_' :: f.storageName := by decide
  exact hother f hf g hg hlined.eq

/-- Two texts of word characters may become one word, as one of them has in front what the other is
given. -/
theorem not_all_words_distinct :
    ¬∀ a b : Text, HasWordParts a → HasWordParts b → a ≠ b → word a ≠ word b := by
  intro h
  exact h "1st" "_1st" (by decide +kernel) (by decide +kernel) (by decide) (by decide +kernel)

end SchemaBook
