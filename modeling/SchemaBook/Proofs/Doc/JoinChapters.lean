import SchemaBook.Proofs.Doc.Lines
import SchemaBook.Book.Chapter
import SchemaBook.Schema.JoinTable

/-!
The documentation of a join table. Its tag lines are made of words that are cut out of the
documentation of its ends and read as documentation again. Main statements: it reads back as these
lines, it has the keys of both ends under each grouping tag, in order and each once, and it has no
flag that keeps the table out of the book unless an end has that flag.
-/

namespace SchemaBook

namespace Tag

theorem mem_values_iff {tag value : Text} {documentation : Option Text} :
    value ∈ values tag documentation ↔
      ∃ line ∈ documentationLines documentation, valueOnLine? tag line = some value :=
  List.mem_filterMap

theorem mem_keys_iff {tag key : Text} {documentation : Option Text} :
    key ∈ keys tag documentation ↔
      ∃ value ∈ values tag documentation, Text.firstWord value = key := by
  rw [keys, mem_firstOccurrences, List.mem_map]

/-- A value stands on its line, and nothing but white space stands behind it. -/
theorem append_of_valueOnLine? {tag line value : Text} (h : valueOnLine? tag line = some value) :
    ∃ before after, line = before ++ (value ++ after) ∧ ∀ c ∈ after, c.isBlank = true := by
  unfold valueOnLine? at h
  split at h
  · cases h
  · next rest hrest =>
    dsimp only at h
    split at h
    · cases h
    · obtain rfl := Option.some.inj h
      obtain ⟨before, hline⟩ := Text.append_of_after? hrest
      obtain ⟨start, after, htrim, hblank⟩ := Text.exists_trim rest
      refine ⟨before ++ (mark tag ++ " ") ++ start, after, ?_, hblank⟩
      calc line = before ++ (mark tag ++ " " ++ rest) := hline
        _ = before ++ (mark tag ++ " " ++ (start ++ (Text.trim rest ++ after))) := by rw [← htrim]
        _ = before ++ (mark tag ++ " ") ++ start ++ (Text.trim rest ++ after) := by
          simp only [List.append_assoc]

theorem endsName_append {rest after : Text} (hrest : endsName rest = true)
    (hafter : ∀ c ∈ after, c.isBlank = true) : endsName (rest ++ after) = true := by
  cases rest with
  | nil =>
    cases after with
    | nil => rfl
    | cons c after => exact hafter c List.mem_cons_self
  | cons c rest => exact hrest

/-- A key stands on a line of the documentation, and what follows it there ends a name. -/
theorem exists_line_of_mem_keys {tag key : Text} {documentation : Option Text}
    (h : key ∈ keys tag documentation) :
    ∃ line ∈ documentationLines documentation, ∃ before after,
      line = before ++ (key ++ after) ∧ endsName after = true := by
  obtain ⟨value, hvalue, rfl⟩ := mem_keys_iff.1 h
  obtain ⟨line, hline, hat⟩ := mem_values_iff.1 hvalue
  obtain ⟨before, after, hplace, hblank⟩ := append_of_valueOnLine? hat
  obtain ⟨start, hword⟩ := Text.exists_firstWord value
  refine ⟨line, hline, before ++ start, Text.afterFirstWord value ++ after, ?_, ?_⟩
  · calc line = before ++ (value ++ after) := hplace
      _ = before ++ ((start ++ (Text.firstWord value ++ Text.afterFirstWord value)) ++ after) := by
        rw [← hword]
      _ = before ++ start ++ (Text.firstWord value ++ (Text.afterFirstWord value ++ after)) := by
        simp only [List.append_assoc]
  · exact endsName_append (Text.isBlank_head_afterFirstWord value) hblank

theorem isBlank_of_mem_key {tag key : Text} {documentation : Option Text}
    (h : key ∈ keys tag documentation) : ∀ c ∈ key, c.isBlank = false := by
  obtain ⟨value, -, rfl⟩ := mem_keys_iff.1 h
  intro c hc
  exact Text.isBlank_of_mem_firstWord hc

/-- A line has a flag exactly when its mark stands there and what follows ends the name. -/
theorem isOnLine_iff {tag line : Text} :
    isOnLine tag line = true ↔
      ∃ before after, line = before ++ (mark tag ++ after) ∧ endsName after = true := by
  simp only [isOnLine, List.any_eq_true, Text.mem_allAfter_iff]
  constructor
  · rintro ⟨after, ⟨before, hline⟩, hends⟩
    exact ⟨before, after, hline, hends⟩
  · rintro ⟨before, after, hline, hends⟩
    exact ⟨after, ⟨before, hline⟩, hends⟩

/-- The mark of the flag neither starts in a grouping mark nor starts a piece of one. -/
theorem hidden_apart_from_grouping :
    ∀ tag ∈ grouping, ∀ piece ∈ (mark tag ++ " ").tails, piece ≠ [] →
      ¬mark hiddenTag <+: piece ∧ ¬piece <+: mark hiddenTag := by
  decide

/-- The flag stands on the tag line of a key exactly when its mark is the end of the key: it does
not reach into the grouping mark, and a key has no white space. -/
theorem isOnLine_hidden_iff {tag key : Text} (htag : tag ∈ grouping)
    (hkey : ∀ c ∈ key, c.isBlank = false) :
    isOnLine hiddenTag (mark tag ++ " " ++ key) = true ↔ mark hiddenTag <:+ key := by
  rw [isOnLine_iff]
  constructor
  · rintro ⟨before, after, hline, hends⟩
    -- The mark starts in the key, or in the last part of the grouping mark, which would have to be
    -- a start of it then.
    have hplace : ∃ start, key = start ++ (mark hiddenTag ++ after) := by
      rcases List.append_eq_append_iff.1 hline with ⟨start, -, hstart⟩ | ⟨piece, hpiece, hrest⟩
      · exact ⟨start, hstart⟩
      · by_cases hnil : piece = []
        · rw [hnil, List.nil_append] at hrest
          exact ⟨[], hrest.symm⟩
        · have htail : piece ∈ (mark tag ++ " ").tails :=
            (List.mem_tails _ _).2 ⟨before, hpiece.symm⟩
          obtain ⟨hlong, hshort⟩ := hidden_apart_from_grouping tag htag piece htail hnil
          have hmark : mark hiddenTag <+: piece ++ key := ⟨after, hrest⟩
          rcases List.prefix_or_prefix_of_prefix hmark (List.prefix_append piece key) with hp | hp
          · exact absurd hp hlong
          · exact absurd hp hshort
    obtain ⟨start, hstart⟩ := hplace
    cases after with
    | nil =>
      rw [List.append_nil] at hstart
      exact ⟨start, hstart.symm⟩
    | cons c after =>
      have hblank : c.isBlank = true := hends
      have hmember : c ∈ key := by
        rw [hstart]
        simp
      rw [hkey c hmember] at hblank
      cases hblank
  · rintro ⟨before, rfl⟩
    refine ⟨mark tag ++ " " ++ before, [], ?_, rfl⟩
    simp only [List.append_assoc, List.append_nil]

/-- A key that ends in the mark of the flag is cut from a documentation text that has the flag. -/
theorem isSet_of_key_hidden {tag key : Text} {documentation : Option Text}
    (hkey : key ∈ keys tag documentation) (hmark : mark hiddenTag <:+ key) :
    isSet hiddenTag documentation = true := by
  obtain ⟨start, rfl⟩ := hmark
  obtain ⟨line, hline, before, after, hplace, hends⟩ := exists_line_of_mem_keys hkey
  refine List.any_eq_true.2 ⟨line, hline, isOnLine_iff.2 ⟨before ++ start, after, ?_, hends⟩⟩
  rw [hplace]
  simp only [List.append_assoc]

theorem ne_nil_of_mem_keys {tag key : Text} {documentation : Option Text}
    (h : key ∈ keys tag documentation) : key ≠ [] := by
  obtain ⟨value, hvalue, rfl⟩ := mem_keys_iff.1 h
  obtain ⟨line, -, hat⟩ := mem_values_iff.1 hvalue
  unfold valueOnLine? at hat
  split at hat
  · cases hat
  · next rest hrest =>
    dsimp only at hat
    split at hat
    · cases hat
    · next hne =>
      obtain rfl := Option.some.inj hat
      obtain ⟨c, hc, hword⟩ := Text.exists_not_blank_of_trim_ne_nil (by simpa using hne)
      exact Text.firstWord_ne_nil hc hword

/-- A grouping mark ends no other grouping mark. -/
theorem eq_of_mark_suffix :
    ∀ tag ∈ grouping, ∀ other ∈ grouping, mark tag <:+ mark other → tag = other := by
  decide

theorem space_notMem_mark : ∀ tag ∈ grouping, CodePoint.char ' ' ∉ mark tag := by
  decide

/-- The line that a grouping tag and a key make has the key as value of that tag, and no value of
another grouping tag: the only space in the line is the one that ends the mark. -/
theorem valueOnLine?_mark_append {tag other key : Text} (htag : tag ∈ grouping)
    (hother : other ∈ grouping) (hne : key ≠ []) (hkey : ∀ c ∈ key, c.isBlank = false) :
    valueOnLine? tag (mark other ++ " " ++ key) = if tag = other then some key else none := by
  by_cases htags : tag = other
  · subst htags
    have hafter : Text.after? (mark tag ++ " ") (mark tag ++ " " ++ key) = some key :=
      Text.after?_append (List.cons_ne_nil _ _) key
    rw [if_pos rfl, valueOnLine?, hafter]
    simp [Text.trim_of_forall_not_blank hkey, hne]
  · have hafter : Text.after? (mark tag ++ " ") (mark other ++ " " ++ key) = none := by
      rw [Option.eq_none_iff_forall_ne_some]
      intro rest hrest
      obtain ⟨before, hline⟩ := Text.append_of_after? hrest
      have hspace : CodePoint.char ' ' ∉ key := fun hmem => absurd (hkey _ hmem) (by decide)
      have hcut : mark other ++ CodePoint.char ' ' :: key =
          (before ++ mark tag) ++ CodePoint.char ' ' :: rest := by
        simp only [List.append_assoc] at hline ⊢
        exact hline
      obtain ⟨hmark, -, -⟩ := (List.append_cons_inj_of_notMem
        (space_notMem_mark other hother) hspace).1 hcut
      exact htags (eq_of_mark_suffix tag htag other hother ⟨before, hmark.symm⟩)
    rw [if_neg htags, valueOnLine?, hafter]

end Tag

theorem mem_joinTagLines_iff {lesser greater : Model} {line : Text} :
    line ∈ joinTagLines lesser greater ↔
      ∃ tag ∈ Tag.grouping, ∃ key, (key ∈ Tag.keys tag lesser.documentation ∨
        key ∈ Tag.keys tag greater.documentation) ∧ line = Tag.mark tag ++ " " ++ key := by
  simp only [joinTagLines, joinKeys, List.mem_flatMap, List.mem_map, mem_firstOccurrences,
    List.mem_append, eq_comm]

/-- A grouping mark has no line end, and neither has a key, which has no white space at all. -/
theorem isBlank_of_mem_joinTagLine {lesser greater : Model} {line : Text}
    (h : line ∈ joinTagLines lesser greater) :
    ∀ c ∈ line, c = .char ' ' ∨ c.isBlank = false := by
  obtain ⟨tag, htag, key, hkey, rfl⟩ := mem_joinTagLines_iff.1 h
  have hgrouping : ∀ tag ∈ Tag.grouping, ∀ c ∈ Tag.mark tag ++ (" " : Text),
      c = .char ' ' ∨ c.isBlank = false := by decide
  intro c hc
  rcases List.mem_append.1 hc with hmark | hword
  · exact hgrouping tag htag c hmark
  · rcases hkey with hlesser | hgreater
    · exact .inr (Tag.isBlank_of_mem_key hlesser c hword)
    · exact .inr (Tag.isBlank_of_mem_key hgreater c hword)

/-- The documentation of a join table reads back as its tag lines. -/
theorem documentationLines_joinDocumentation (lesser greater : Model) :
    documentationLines (joinDocumentation lesser greater) = joinTagLines lesser greater := by
  have hne : ∀ line ∈ joinTagLines lesser greater, line ≠ [] := by
    intro line hline
    obtain ⟨tag, -, key, -, rfl⟩ := mem_joinTagLines_iff.1 hline
    exact List.cons_ne_nil _ _
  have hfeed : ∀ line ∈ joinTagLines lesser greater, CodePoint.char '\n' ∉ line := by
    intro line hline hmem
    exact absurd (isBlank_of_mem_joinTagLine hline _ hmem) (by decide)
  have hreturn : ∀ line ∈ joinTagLines lesser greater, CodePoint.char '\r' ∉ line := by
    intro line hline hmem
    exact absurd (isBlank_of_mem_joinTagLine hline _ hmem) (by decide)
  have hread : Text.lines (Text.joinLines (joinTagLines lesser greater)) =
      joinTagLines lesser greater := Text.lines_joinLines hne hfeed hreturn
  unfold documentationLines joinDocumentation
  split
  · next hnone => rw [hnone]; rfl
  · exact hread

theorem mem_joinKeys {tag key : Text} {lesser greater : Model} :
    key ∈ joinKeys tag lesser greater ↔
      key ∈ Tag.keys tag lesser.documentation ∨ key ∈ Tag.keys tag greater.documentation := by
  rw [joinKeys, mem_firstOccurrences, List.mem_append]

theorem isSolid_of_mem_joinKeys {tag key : Text} {lesser greater : Model}
    (h : key ∈ joinKeys tag lesser greater) : key ≠ [] ∧ ∀ c ∈ key, c.isBlank = false := by
  rcases mem_joinKeys.1 h with hkey | hkey
  · exact ⟨Tag.ne_nil_of_mem_keys hkey, Tag.isBlank_of_mem_key hkey⟩
  · exact ⟨Tag.ne_nil_of_mem_keys hkey, Tag.isBlank_of_mem_key hkey⟩

/-- The line of a key has the key as value of its own tag, and no value of another one. -/
theorem valueOnLine?_tagLine {tag other : Text} (htag : tag ∈ Tag.grouping)
    (hother : other ∈ Tag.grouping) {lesser greater : Model} {key : Text}
    (hkey : key ∈ joinKeys other lesser greater) :
    Tag.valueOnLine? tag (Tag.mark other ++ " " ++ key) =
      if tag = other then some key else none := by
  obtain ⟨hne, hsolid⟩ := isSolid_of_mem_joinKeys hkey
  exact Tag.valueOnLine?_mark_append htag hother hne hsolid

theorem filterMap_valueOnLine?_tagLines {tag other : Text} (htag : tag ∈ Tag.grouping)
    (hother : other ∈ Tag.grouping) (lesser greater : Model) :
    ((joinKeys other lesser greater).map fun key => Tag.mark other ++ " " ++ key).filterMap
        (Tag.valueOnLine? tag) =
      if other = tag then joinKeys other lesser greater else [] := by
  rw [List.filterMap_map, Function.comp_def,
    List.filterMap_congr fun key hkey => valueOnLine?_tagLine htag hother hkey]
  by_cases htags : other = tag
  · simp [htags]
  · simp [htags, Ne.symm htags]

/-- If only one element of a list gives anything, that is all the list gives. -/
theorem flatMap_ite_eq {α β : Type} [DecidableEq α] {xs : List α} (hxs : xs.Nodup) {a : α}
    (ha : a ∈ xs) (f : α → List β) : (xs.flatMap fun b => if b = a then f b else []) = f a := by
  induction xs with
  | nil => cases ha
  | cons b rest ih =>
    obtain ⟨hb, hrest⟩ := List.nodup_cons.1 hxs
    rw [List.flatMap_cons]
    by_cases hba : b = a
    · have hnone : (rest.flatMap fun c => if c = a then f c else []) = [] := by
        refine List.flatMap_eq_nil_iff.2 ?_
        intro c hc
        have hca : c ≠ a := fun hca => hb (hba ▸ hca ▸ hc)
        exact if_neg hca
      rw [if_pos hba, hnone, List.append_nil, hba]
    · have hmem : a ∈ rest := (List.mem_cons.1 ha).resolve_left (Ne.symm hba)
      rw [if_neg hba, ih hrest hmem, List.nil_append]

/-- What the documentation of a join table holds under a grouping tag are the keys of its ends. -/
theorem values_joinDocumentation {tag : Text} (htag : tag ∈ Tag.grouping)
    (lesser greater : Model) :
    Tag.values tag (joinDocumentation lesser greater) = joinKeys tag lesser greater := by
  have hdistinct : Tag.grouping.Nodup := by decide
  rw [Tag.values, documentationLines_joinDocumentation, joinTagLines, List.filterMap_flatMap,
    List.flatMap_congr fun other hother =>
      filterMap_valueOnLine?_tagLines htag hother lesser greater,
    flatMap_ite_eq hdistinct htag]

theorem keys_joinDocumentation {tag : Text} (htag : tag ∈ Tag.grouping)
    (lesser greater : Model) :
    Tag.keys tag (joinDocumentation lesser greater) = joinKeys tag lesser greater := by
  have hwords : (joinKeys tag lesser greater).map Text.firstWord =
      (joinKeys tag lesser greater).map id := by
    refine List.map_congr_left ?_
    intro key hkey
    exact Text.firstWord_of_forall_not_blank (isSolid_of_mem_joinKeys hkey).2
  rw [Tag.keys, values_joinDocumentation htag, hwords, List.map_id, joinKeys]
  exact firstOccurrences_of_nodup (nodup_firstOccurrences _)

/-- A join table has the grouping keys of its ends, tag by tag. -/
theorem mem_keys_joinDocumentation {tag key : Text} (htag : tag ∈ Tag.grouping)
    (lesser greater : Model) :
    key ∈ Tag.keys tag (joinDocumentation lesser greater) ↔
      key ∈ Tag.keys tag lesser.documentation ∨ key ∈ Tag.keys tag greater.documentation := by
  rw [keys_joinDocumentation htag, mem_joinKeys]

theorem joinDocumentation_eq_none_iff {lesser greater : Model} :
    joinDocumentation lesser greater = none ↔
      ∀ tag ∈ Tag.grouping, joinKeys tag lesser greater = [] := by
  have hlines : joinTagLines lesser greater = [] ↔
      ∀ tag ∈ Tag.grouping, joinKeys tag lesser greater = [] := by
    simp only [joinTagLines, List.flatMap_eq_nil_iff, List.map_eq_nil_iff]
  rw [← hlines]
  unfold joinDocumentation
  split
  · next hnone => simp [hnone]
  · next hsome => simpa using hsome

/-- The documentation of a join table keeps the grouping keys of its two ends. Under each grouping
tag it reads back as the keys of the one end and then those of the other, each once. Every line of
it is that of one key under one tag, and no other grouping tag finds a value there. There is no
documentation exactly when neither end has a key. -/
theorem joinDocumentation_keeps_keys (lesser greater : Model) :
    (∀ tag ∈ Tag.grouping, Tag.keys tag (joinModel lesser greater).documentation =
        (Tag.keys tag lesser.documentation ++ Tag.keys tag greater.documentation).eraseDups) ∧
      (∀ line ∈ documentationLines (joinModel lesser greater).documentation,
        ∃ own ∈ Tag.grouping, ∃ key, line = Tag.mark own ++ " " ++ key ∧
          ∀ tag ∈ Tag.grouping,
            Tag.valueOnLine? tag line = if tag = own then some key else none) ∧
      ((joinModel lesser greater).documentation = none ↔ ∀ tag ∈ Tag.grouping,
        Tag.keys tag lesser.documentation = [] ∧ Tag.keys tag greater.documentation = []) := by
  refine ⟨?_, ?_, ?_⟩
  · intro tag htag
    rw [← firstOccurrences_eq_eraseDups]
    exact keys_joinDocumentation htag lesser greater
  · intro line hline
    change line ∈ documentationLines (joinDocumentation lesser greater) at hline
    rw [documentationLines_joinDocumentation] at hline
    obtain ⟨own, hown, key, hkey, rfl⟩ := mem_joinTagLines_iff.1 hline
    exact ⟨own, hown, key, rfl, fun tag htag =>
      valueOnLine?_tagLine htag hown (mem_joinKeys.2 hkey)⟩
  · refine joinDocumentation_eq_none_iff.trans (forall₂_congr fun tag _ => ?_)
    simp only [List.eq_nil_iff_forall_not_mem, mem_joinKeys, not_or, forall_and]

/-- Two models with marks of grouping tags among the words and keys of their documentation. -/
def markedEnds : Model × Model :=
  ({ name := "A", documentation := some "@describe @namespace\n@namespace one\u2003two @erd" },
    { name := "B", documentation := some "@describe rooms@erd\r\n@describe @namespace" })

/-- The keys of the two stay under their tags, also those that are the mark of another tag. -/
theorem markedEnds_keys_kept :
    Tag.keys Tag.namespaceTag (joinModel markedEnds.1 markedEnds.2).documentation =
        [("one" : Text)] ∧
      Tag.keys Tag.describeTag (joinModel markedEnds.1 markedEnds.2).documentation =
        [("@namespace" : Text), ("rooms@erd" : Text)] ∧
      Tag.keys Tag.erdTag (joinModel markedEnds.1 markedEnds.2).documentation = [] := by
  obtain ⟨hkeys, -, -⟩ := joinDocumentation_keeps_keys markedEnds.1 markedEnds.2
  exact ⟨(hkeys _ (by decide)).trans (by decide), (hkeys _ (by decide)).trans (by decide),
    (hkeys _ (by decide)).trans (by decide)⟩

/-- The documentation of a join table has the flag exactly when a grouping key of one of the ends
ends in the flag's mark. -/
theorem isSet_hidden_joinDocumentation_iff (lesser greater : Model) :
    Tag.isSet Tag.hiddenTag (joinDocumentation lesser greater) = true ↔
      ∃ tag ∈ Tag.grouping, ∃ key, (key ∈ Tag.keys tag lesser.documentation ∨
        key ∈ Tag.keys tag greater.documentation) ∧ Tag.mark Tag.hiddenTag <:+ key := by
  have hsolid : ∀ tag key, key ∈ Tag.keys tag lesser.documentation ∨
      key ∈ Tag.keys tag greater.documentation → ∀ c ∈ key, c.isBlank = false := fun _ _ hkey =>
    (isSolid_of_mem_joinKeys (mem_joinKeys.2 hkey)).2
  rw [Tag.isSet, documentationLines_joinDocumentation, List.any_eq_true]
  constructor
  · rintro ⟨line, hline, hflag⟩
    obtain ⟨tag, htag, key, hkey, rfl⟩ := mem_joinTagLines_iff.1 hline
    exact ⟨tag, htag, key, hkey, (Tag.isOnLine_hidden_iff htag (hsolid tag key hkey)).1 hflag⟩
  · rintro ⟨tag, htag, key, hkey, hmark⟩
    exact ⟨_, mem_joinTagLines_iff.2 ⟨tag, htag, key, hkey, rfl⟩,
      (Tag.isOnLine_hidden_iff htag (hsolid tag key hkey)).2 hmark⟩

/-- A join table is kept out of the book only with one of its ends. -/
theorem isHidden_joinModel {lesser greater : Model} (hlesser : lesser.isHidden = false)
    (hgreater : greater.isHidden = false) : (joinModel lesser greater).isHidden = false := by
  rw [← Bool.not_eq_true]
  intro hhidden
  obtain ⟨tag, -, key, hkey, hmark⟩ :=
    (isSet_hidden_joinDocumentation_iff lesser greater).1 hhidden
  rcases hkey with hkey | hkey
  · rw [Model.isHidden, Tag.isSet_of_key_hidden hkey hmark] at hlesser
    cases hlesser
  · rw [Model.isHidden, Tag.isSet_of_key_hidden hkey hmark] at hgreater
    cases hgreater

end SchemaBook
