import SchemaBook.Proofs.Doc.Prose

/-!
Columns as list items. The prose of a column follows its name when it is one line, and else stands
below it with a bullet for each line that is not empty. White space alone is dropped at the ends of
the prose but makes a line there that is not empty, so it gets a bullet as well. Main statement: an
item has bullets for the lines that are not blank, and only for these, exactly when the prose has no
line of white space alone.
-/

namespace SchemaBook

open Text

/-- The item of a column without prose: a bullet with its storage name. -/
def Field.itemName (f : Field) : Text := "    - `" ++ f.storageName ++ "`"

/-- The lines of an item with texts: one behind the name, more than one below it. -/
def itemLines (name : Text) : List Text → List Text
  | [] => [name]
  | [text] => [name ++ ": " ++ text]
  | first :: second :: rest => name :: (first :: second :: rest).map ("      - " ++ ·)

/-- The lines of the prose that are not blank. -/
def writtenLines (documentation : Option Text) : List Text :=
  (feedLines (prose documentation)).filter (·.any (!·.isBlank))

/-- Whether the item of a column has a text for each line of its prose that is not blank, in order,
and no text without a character that can be seen. -/
structure Field.HasFullItem (f : Field) : Prop where
  lines : feedLines (describeField f) = itemLines f.itemName (writtenLines f.documentation)
  full : ∀ text ∈ writtenLines f.documentation, ∃ c ∈ text, c.isBlank = false

/-- The texts of an item, read off its lines. -/
def itemTexts (name : Text) : List Text → List Text
  | [] => []
  | [line] => if line = name then [] else [line.drop (name ++ ": ").length]
  | _ :: lines => lines.map (·.drop (("      - " : String) : Text).length)

theorem itemTexts_itemLines (name : Text) (texts : List Text) :
    itemTexts name (itemLines name texts) = texts := by
  cases texts with
  | nil => exact if_pos rfl
  | cons first rest =>
    cases rest with
    | nil =>
      have hlonger : name ++ ": " ++ first ≠ name := by
        intro heq
        have hlength := congrArg List.length heq
        simp [ofString, ofChars] at hlength
      rw [itemLines, itemTexts, if_neg hlonger, List.drop_left]
    | cons second rest =>
      have hread : (·.drop (("      - " : String) : Text).length) ∘
          ((("      - " : String) : Text) ++ ·) = id := funext fun text => List.drop_left
      rw [itemLines, List.map_cons, itemTexts, ← List.map_cons, List.map_map, hread, List.map_id]
      exact List.cons_ne_nil _ _

theorem itemLines_injective (name : Text) : Function.Injective (itemLines name) :=
  Function.LeftInverse.injective (itemTexts_itemLines name)

/-- The lines of the prose are read off its text, but for an empty line where it is empty. -/
theorem filter_feedLines_prose {p : Text → Bool} (hp : p [] = false) (documentation : Option Text) :
    (feedLines (prose documentation)).filter p = (proseLines documentation).filter p := by
  by_cases hnone : proseLines documentation = []
  · rw [prose, hnone]
    simp [joinLines, join, feedLines, splitWhere, hp]
  · rw [prose, feedLines_joinLines hnone fun _ => feed_notMem_of_mem_proseLines]

theorem describeField_eq (f : Field) :
    describeField f =
      joinLines (itemLines f.itemName ((proseLines f.documentation).filter (!·.isEmpty))) := by
  unfold describeField
  dsimp only
  generalize (proseLines f.documentation).filter (!·.isEmpty) = texts
  match texts with
  | [] => exact (joinLines_singleton _).symm
  | [text] => exact (joinLines_singleton _).symm
  | first :: second :: rest => rfl

theorem feed_notMem_of_mem_itemLines {name : Text} (hname : CodePoint.char '\n' ∉ name)
    {texts : List Text} (htexts : ∀ text ∈ texts, CodePoint.char '\n' ∉ text) :
    ∀ line ∈ itemLines name texts, CodePoint.char '\n' ∉ line := by
  have hcolon : CodePoint.char '\n' ∉ ((": " : String) : Text) := by decide
  have hbullet : CodePoint.char '\n' ∉ (("      - " : String) : Text) := by decide
  match texts with
  | [] => simpa [itemLines] using hname
  | [text] =>
    have htext := htexts text List.mem_cons_self
    simpa [itemLines, hname, hcolon] using htext
  | first :: second :: rest =>
    rw [itemLines, List.forall_mem_cons, List.forall_mem_map]
    refine ⟨hname, fun text htext => ?_⟩
    rw [List.mem_append, not_or]
    exact ⟨hbullet, htexts text htext⟩

/-- A column whose storage name is one line has an item for the lines of its prose that are not
empty. -/
theorem feedLines_describeField {f : Field} (h : CodePoint.char '\n' ∉ f.storageName) :
    feedLines (describeField f) =
      itemLines f.itemName ((feedLines (prose f.documentation)).filter (!·.isEmpty)) := by
  have hname : CodePoint.char '\n' ∉ f.itemName := by
    simp only [Field.itemName, List.mem_append, not_or]
    exact ⟨⟨by decide, h⟩, by decide⟩
  have htexts : ∀ text ∈ (proseLines f.documentation).filter (!·.isEmpty),
      CodePoint.char '\n' ∉ text := fun text htext =>
    feed_notMem_of_mem_proseLines (List.mem_of_mem_filter htext)
  have hne : itemLines f.itemName ((proseLines f.documentation).filter (!·.isEmpty)) ≠ [] := by
    unfold itemLines
    split <;> exact List.cons_ne_nil _ _
  rw [describeField_eq, feedLines_joinLines hne (feed_notMem_of_mem_itemLines hname htexts),
    filter_feedLines_prose rfl]

/-- The item of a column has one text for each line of its prose that is not empty, behind the name
where there is one and below it where there are more. These are the lines that are not blank, and so
none of the texts is white space alone, exactly when every blank line of the prose is empty. -/
theorem hasFullItem_iff {f : Field} (h : CodePoint.char '\n' ∉ f.storageName) :
    feedLines (describeField f) =
        itemLines f.itemName ((feedLines (prose f.documentation)).filter (!·.isEmpty)) ∧
      (f.HasFullItem ↔
        ∀ line ∈ feedLines (prose f.documentation),
          (∀ c ∈ line, c.isBlank = true) → line = []) := by
  have hlines := feedLines_describeField h
  refine ⟨hlines, ?_, ?_⟩
  · intro hfull line hline hblank
    have hsame := itemLines_injective f.itemName (hlines.symm.trans hfull.lines)
    by_contra hne
    have hmem : line ∈ writtenLines f.documentation := by
      rw [← hsame]
      exact List.mem_filter.2 ⟨hline, by simpa using hne⟩
    obtain ⟨c, hc, hseen⟩ := hfull.full line hmem
    rw [hblank c hc] at hseen
    cases hseen
  · intro hblank
    have hsame : (feedLines (prose f.documentation)).filter (!·.isEmpty) =
        writtenLines f.documentation := by
      refine List.filter_congr fun line hline => ?_
      have hempty := hblank line hline
      rw [Bool.eq_iff_iff, Bool.not_eq_true', List.isEmpty_eq_false_iff, List.any_eq_true]
      constructor
      · intro hne
        by_contra hnone
        exact hne (hempty fun c hc => by simpa using fun hseen => hnone ⟨c, hc, hseen⟩)
      · rintro ⟨c, hc, -⟩
        exact List.ne_nil_of_mem hc
    refine ⟨hlines.trans (congrArg _ hsame), fun text htext => ?_⟩
    simpa using (List.mem_filter.1 htext).2

/-- A column with the documentation given. -/
def amountColumn (documentation : Text) : Field :=
  { name := "amount", type := "Int", dbName := some "amount_cents"
    documentation := some documentation }

/-- An empty line between two others gets no bullet. -/
theorem amountColumn_full :
    describeField (amountColumn "@unit cents\nAmount.\n\nIn \x7b@link Cent cents\x7d.\n ") =
        "    - `amount_cents`\n      - Amount.\n      - In [cents](#Cent)." ∧
      (amountColumn "@unit cents\nAmount.\n\nIn \x7b@link Cent cents\x7d.\n ").HasFullItem := by
  have hname : CodePoint.char '\n' ∉
      (amountColumn "@unit cents\nAmount.\n\nIn \x7b@link Cent cents\x7d.\n ").storageName := by
    decide
  have hblank : ∀ line ∈ feedLines (prose (some
      "@unit cents\nAmount.\n\nIn \x7b@link Cent cents\x7d.\n ")),
      (∀ c ∈ line, c.isBlank = true) → line = [] := by decide +kernel
  exact ⟨by decide +kernel, (hasFullItem_iff hname).2.2 hblank⟩

/-- A line of two spaces between two others gets a bullet with nothing behind it. -/
theorem not_all_hasFullItem :
    ¬∀ f : Field, CodePoint.char '\n' ∉ f.storageName → f.HasFullItem := by
  intro hall
  have hname : CodePoint.char '\n' ∉ (amountColumn "Amount.\n  \nIn cents.").storageName := by
    decide
  have hlines := (hall _ hname).lines
  exact absurd hlines (by decide +kernel)

end SchemaBook
