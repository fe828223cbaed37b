import SchemaBook.Proofs.Loader.Repair
import SchemaBook.Yaml.Layout

/-!
The lines that the repair of a schema text puts into quotation marks, by their form: an entry of one
of the text keys, whose value does not start as an enclosed one and holds a colon that white space
or the line's end follows. The form looks at one line alone. Where the key ends, and whether the
line is an entry at all, depends in YAML on the space behind the colon and on the lines above: a
block scalar may hold lines of that form as text. Main statements: the repair changes exactly the
lines of that form, and these are entries of the schema exactly when a space follows the colon in
each of them and none stands in a block scalar; and a text that was repaired has no such line left.
-/

namespace SchemaBook.Repair

open Text

/-- The start of a line up to a key: white space, and behind it a hyphen with white space or not. -/
inductive IsEntryStart : Text → Prop where
  | blank {gap : Text} (hgap : ∀ c ∈ gap, c.isBlank = true) : IsEntryStart gap
  | item {gap more : Text} (hgap : ∀ c ∈ gap, c.isBlank = true)
      (hmore : ∀ c ∈ more, c.isBlank = true) : IsEntryStart (gap ++ .char '-' :: more)

/-- A line with a key and a value, in its parts: what stands in front of the key, the key, what
stands between its colon and the value, and the value. -/
structure TextEntry where
  start : Text
  key : Text
  gap : Text
  value : Text

namespace TextEntry

/-- The line up to the value. -/
def lead (e : TextEntry) : Text := e.start ++ (e.key ++ ":" ++ e.gap)

def line (e : TextEntry) : Text := e.lead ++ e.value

/-- The line with its value in quotation marks. -/
def quotedLine (e : TextEntry) : Text := e.lead ++ enclose e.value

/-- The parts of a line in front of the value: one of the text keys, with nothing but white space
and a hyphen around it. -/
structure HasTextKey (e : TextEntry) : Prop where
  start : IsEntryStart e.start
  key : e.key ∈ textKeys
  gap : ∀ c ∈ e.gap, c.isBlank = true

/-- The marks that a value starts with as a quoted scalar, a block scalar or a collection in
brackets. -/
def enclosingMarks : Text := "'\"|>[\x7b"

/-- The form of a line that the repair changes. -/
structure IsUnquoted (e : TextEntry) : Prop extends e.HasTextKey where
  value : ∀ c ∈ e.value.head?, c.isBlank = false ∧ c ∉ enclosingMarks
  colon : ∃ before after, e.value = before ++ .char ':' :: after ∧
    ∀ c ∈ after.head?, c.isBlank = true

theorem IsUnquoted.exists_head {e : TextEntry} (h : e.IsUnquoted) :
    ∃ c, e.value.head? = some c ∧ c.isBlank = false := by
  obtain ⟨before, after, hvalue, -⟩ := h.colon
  have hne : e.value ≠ [] := by
    rw [hvalue]
    exact List.append_ne_nil_of_right_ne_nil before (List.cons_ne_nil _ after)
  obtain ⟨c, rest, hcons⟩ := List.exists_cons_of_ne_nil hne
  have hc : e.value.head? = some c := by rw [hcons, List.head?_cons]
  exact ⟨c, hc, (h.value c hc).1⟩

end TextEntry

theorem isEnclosed_eq_false_iff {value : Text} :
    isEnclosed value = false ↔ ∀ c ∈ value.head?, c ∉ TextEntry.enclosingMarks := by
  cases value with
  | nil => simp [isEnclosed]
  | cons c rest =>
    simp [isEnclosed, CodePoint.isOneOf, TextEntry.enclosingMarks, ofString, ofChars]

theorem hasOpenColon_iff {value : Text} :
    hasOpenColon value = true ↔ ∃ before after, value = before ++ .char ':' :: after ∧
      ∀ c ∈ after.head?, c.isBlank = true := by
  induction value with
  | nil => simp [hasOpenColon]
  | cons c rest ih =>
    have hhead : rest.head?.all CodePoint.isBlank = true ↔ ∀ d ∈ rest.head?, d.isBlank = true := by
      cases rest <;> simp
    rw [hasOpenColon, Bool.or_eq_true, Bool.and_eq_true, beq_iff_eq, hhead, ih]
    constructor
    · rintro (⟨rfl, hopen⟩ | ⟨before, after, rfl, hopen⟩)
      · exact ⟨[], rest, rfl, hopen⟩
      · exact ⟨c :: before, after, rfl, hopen⟩
    · rintro ⟨before, after, hvalue, hopen⟩
      cases before with
      | nil =>
        obtain ⟨rfl, rfl⟩ := List.cons.inj hvalue
        exact .inl ⟨rfl, hopen⟩
      | cons d before =>
        obtain ⟨-, hrest⟩ := List.cons.inj hvalue
        exact .inr ⟨before, after, hrest, hopen⟩

/-- None of the keys starts another one. -/
theorem afterKey?_append {key : Text} (hkey : key ∈ textKeys) (rest : Text) :
    afterKey? (key ++ ":" ++ rest) = some rest := by
  simp only [textKeys, List.mem_cons, List.not_mem_nil, or_false] at hkey
  rcases hkey with rfl | rfl | rfl | rfl | rfl <;> rfl

theorem head_of_mem_textKeys {key : Text} (hkey : key ∈ textKeys) (rest : Text) :
    ∀ c ∈ (key ++ ":" ++ rest).head?, c.isBlank = false ∧ c ≠ .char '-' := by
  have hheads : ∀ word ∈ textKeys, ∃ c, word.head? = some c ∧ c.isBlank = false ∧
      c ≠ .char '-' := by
    simp only [textKeys, List.forall_mem_cons]
    exact ⟨⟨_, rfl, by decide⟩, ⟨_, rfl, by decide⟩, ⟨_, rfl, by decide⟩, ⟨_, rfl, by decide⟩,
      ⟨_, rfl, by decide⟩, nofun⟩
  obtain ⟨c, hhead, hc⟩ := hheads key hkey
  obtain ⟨more, rfl⟩ := List.head?_eq_some_iff.1 hhead
  rintro d hd
  rwa [← Option.some.inj hd]

theorem behindStart_append {start rest : Text} (hstart : IsEntryStart start)
    (hrest : ∀ c ∈ rest.head?, c.isBlank = false ∧ c ≠ .char '-') :
    behindStart (start ++ rest) = rest := by
  have hkept : rest.dropWhile CodePoint.isBlank = rest := by
    cases rest with
    | nil => rfl
    | cons c more => exact List.dropWhile_cons_of_neg (by simp [hrest c rfl])
  unfold behindStart
  cases hstart with
  | blank hgap =>
    rw [List.dropWhile_append_of_pos hgap, hkept]
    split
    · next more => exact absurd rfl (hrest _ rfl).2
    · rfl
  | @item gap more hgap hmore =>
    have hhyphen : CodePoint.isBlank (.char '-') = false := by decide
    rw [List.append_assoc, List.dropWhile_append_of_pos hgap, List.cons_append,
      List.dropWhile_cons_of_neg (by simp [hhyphen])]
    change (more ++ rest).dropWhile CodePoint.isBlank = rest
    rw [List.dropWhile_append_of_pos hmore, hkept]

theorem isBlank_of_mem_takeWhile {cs : Text} {c : CodePoint}
    (h : c ∈ cs.takeWhile CodePoint.isBlank) : c.isBlank = true :=
  List.all_eq_true.1 List.all_takeWhile c h

theorem exists_start (line : Text) :
    ∃ start, IsEntryStart start ∧ line = start ++ behindStart line := by
  have hline := List.takeWhile_append_dropWhile (p := CodePoint.isBlank) (l := line)
  unfold behindStart
  split
  · next more hmore =>
    refine ⟨line.takeWhile CodePoint.isBlank ++ .char '-' :: more.takeWhile CodePoint.isBlank,
      .item (fun _ => isBlank_of_mem_takeWhile) (fun _ => isBlank_of_mem_takeWhile), ?_⟩
    rw [List.append_assoc, List.cons_append, List.takeWhile_append_dropWhile, ← hmore, hline]
  · exact ⟨_, .blank fun _ => isBlank_of_mem_takeWhile, hline.symm⟩

/-- A value with a colon in it does not start with white space. -/
theorem valueBehind_of_hasOpenColon {rest : Text} (h : hasOpenColon (valueBehind rest) = true) :
    valueBehind rest = rest.dropWhile CodePoint.isBlank := by
  unfold valueBehind at h ⊢
  dsimp only at h ⊢
  split at h
  · next hblank =>
    obtain ⟨before, after, hvalue, -⟩ := hasOpenColon_iff.1 h
    have hmem : CodePoint.char ':' ∈ rest := by
      refine List.mem_of_mem_drop (i := rest.length - 1) ?_
      rw [hvalue]
      exact List.mem_append_right before List.mem_cons_self
    have hcolon := List.dropWhile_eq_nil_iff.1 (List.isEmpty_iff.1 hblank) _ hmem
    exact absurd hcolon (by decide)
  · next hfull => rw [if_neg hfull]

namespace TextEntry

/-- The parts of a line are found again, whatever its value is, if that does not start with white
space. -/
theorem HasTextKey.entry?_append {e : TextEntry} (h : e.HasTextKey) {value : Text} {c : CodePoint}
    (hvalue : value.head? = some c) (hc : c.isBlank = false) :
    entry? (e.lead ++ value) = some (e.lead, value) := by
  obtain ⟨more, rfl⟩ := List.head?_eq_some_iff.1 hvalue
  have hdrop : valueBehind (e.gap ++ c :: more) = c :: more := by
    rw [valueBehind, List.dropWhile_append_of_pos h.gap, List.dropWhile_cons_of_neg (by simp [hc])]
    rfl
  have hbehind : behindStart (e.lead ++ c :: more) = e.key ++ ":" ++ (e.gap ++ c :: more) := by
    have hfound := behindStart_append h.start (head_of_mem_textKeys h.key (e.gap ++ c :: more))
    rw [← hfound, lead]
    simp only [List.append_assoc]
  rw [entry?_eq, hbehind, afterKey?_append h.key, Option.bind_some, hdrop, List.length_append,
    Nat.add_sub_cancel, List.take_left]
  rfl

end TextEntry

theorem exists_of_entry? {line lead value : Text} (h : entry? line = some (lead, value))
    (hcolon : hasOpenColon value = true) :
    ∃ e : TextEntry, e.HasTextKey ∧ e.lead = lead ∧ e.value = value ∧
      ∀ c ∈ value.head?, c.isBlank = false := by
  have hline := append_of_entry? h
  rw [entry?_eq, Option.bind_eq_some_iff] at h
  obtain ⟨rest, hkey, hvalue⟩ := h
  split at hvalue
  · cases hvalue
  · obtain ⟨-, rfl⟩ := Prod.mk.inj (Option.some.inj hvalue)
    obtain ⟨key, hkeyMem, hbehind⟩ := exists_key_of_afterKey? hkey
    obtain ⟨start, hstart, hfront⟩ := exists_start line
    have hrest := valueBehind_of_hasOpenColon hcolon
    refine ⟨⟨start, key, rest.takeWhile CodePoint.isBlank, valueBehind rest⟩,
      ⟨hstart, hkeyMem, fun _ => isBlank_of_mem_takeWhile⟩, ?_, rfl, ?_⟩
    · apply List.append_cancel_right
      rw [hline, hfront, hbehind, TextEntry.lead, hrest]
      simp only [List.append_assoc, List.takeWhile_append_dropWhile]
    · intro c hc
      rw [hrest] at hc
      have hhead := List.head?_dropWhile_not CodePoint.isBlank rest
      rw [Option.mem_def.1 hc] at hhead
      simpa using hhead

/-- A line is changed exactly when it has the form of an unquoted entry, and then its value is put
into quotation marks. -/
theorem repairedLine?_eq_some_iff {line after : Text} :
    repairedLine? line = some after ↔
      ∃ e : TextEntry, e.IsUnquoted ∧ e.line = line ∧ e.quotedLine = after := by
  constructor
  · intro h
    unfold repairedLine? at h
    split at h
    · cases h
    · next lead value hentry =>
      split at h
      · next hform =>
        rw [Bool.and_eq_true, Bool.not_eq_true'] at hform
        obtain ⟨e, hkey, rfl, rfl, hblank⟩ := exists_of_entry? hentry hform.2
        refine ⟨e, ⟨hkey, ?_, hasOpenColon_iff.1 hform.2⟩, append_of_entry? hentry,
          Option.some.inj h⟩
        exact fun c hc => ⟨hblank c hc, isEnclosed_eq_false_iff.1 hform.1 c hc⟩
      · cases h
  · rintro ⟨e, hform, rfl, rfl⟩
    obtain ⟨c, hc, hblank⟩ := hform.exists_head
    have hentry := hform.entry?_append hc hblank
    have hopen := hasOpenColon_iff.2 hform.colon
    have hplain := isEnclosed_eq_false_iff.2 fun d hd => (hform.value d hd).2
    rw [repairedLine?, TextEntry.line, hentry]
    dsimp only
    rw [hplain, hopen]
    rfl

/-- The start of a line in a block collection, up to its key: spaces, and hyphens with spaces behind
them. -/
inductive IsIndentation : Text → Prop where
  | spaces (n : Nat) : IsIndentation (List.replicate n (.char ' '))
  | item {start : Text} (n : Nat) (hstart : IsIndentation start) :
      IsIndentation (start ++ .char '-' :: List.replicate (n + 1) (.char ' '))

/-- A line that opens a literal or folded block scalar for a key in a column. -/
inductive OpensBlockScalar (column : Nat) : Text → Prop where
  | intro {start key gap rest : Text} {first mark : CodePoint} (hstart : IsIndentation start)
      (hcolumn : start.length = column) (hfirst : key.head? = some first)
      (hplain : first ∉ ((" -#" : String) : Text)) (hkey : hasOpenColon key = false)
      (hgap : gap ≠ []) (hspaces : ∀ c ∈ gap, c = .char ' ')
      (hmark : mark = .char '|' ∨ mark = .char '>') :
      OpensBlockScalar column (start ++ key ++ ":" ++ gap ++ mark :: rest)

/-- The number of spaces at the start of a line. -/
def indentation (line : Text) : Nat := (line.takeWhile (· == .char ' ')).length

/-- Whether the line at a place is content of a block scalar: it stands in the run of lines that are
blank or indented more than the key of the line in front of them, which opens the scalar. -/
def InBlockScalar (lines : List Text) (place : Nat) : Prop :=
  ∃ opening column head, opening < place ∧ lines[opening]? = some head ∧
    OpensBlockScalar column head ∧
    ∀ i line, opening < i → i ≤ place → lines[i]? = some line →
      (∀ c ∈ line, c.isBlank = true) ∨ column < indentation line

/-- Whether the line at a place is an entry of the schema: nothing but indentation stands in front
of the key, a space behind its colon, the value starts as a plain scalar may, and the line is not
content of a block scalar. -/
structure TextEntry.IsEntryAt (e : TextEntry) (lines : List Text) (place : Nat) : Prop where
  line : lines[place]? = some e.line
  indented : IsIndentation e.start
  spaced : e.gap.head? = some (.char ' ')
  plain : ∃ c rest, e.value = c :: rest ∧ Yaml.Layout.startsPlain false c rest.head? = true
  outside : ¬InBlockScalar lines place

/-- Whether a change puts the value of an unquoted entry of the schema into quotation marks. -/
def Change.QuotesEntry (change : Change) (lines : List Text) : Prop :=
  ∃ (place : Nat) (e : TextEntry), change = ⟨place + 1, e.line, e.quotedLine⟩ ∧ e.IsUnquoted ∧
    e.IsEntryAt lines place

namespace TextEntry

theorem HasTextKey.behindStart_line {e : TextEntry} (h : e.HasTextKey) :
    behindStart e.line = e.key ++ ":" ++ (e.gap ++ e.value) := by
  rw [← behindStart_append h.start (head_of_mem_textKeys h.key (e.gap ++ e.value)), line, lead]
  simp only [List.append_assoc]

/-- A line has the form of an unquoted entry in one way. -/
theorem IsUnquoted.unique {e d : TextEntry} (he : e.IsUnquoted) (hd : d.IsUnquoted)
    (hline : e.line = d.line) : e = d := by
  obtain ⟨b, hb, hblank⟩ := he.exists_head
  obtain ⟨c, hc, hother⟩ := hd.exists_head
  have hlead : e.lead = d.lead ∧ e.value = d.value := by
    have hentry := he.entry?_append hb hblank
    have hsame := hd.entry?_append hc hother
    rw [← line, hline, line, hsame] at hentry
    exact (Prod.mk.inj (Option.some.inj hentry)).imp Eq.symm Eq.symm
  have hbehind : e.key ++ ":" ++ (e.gap ++ e.value) = d.key ++ ":" ++ (d.gap ++ d.value) := by
    rw [← he.behindStart_line, ← hd.behindStart_line, hline]
  have hrest : e.gap ++ e.value = d.gap ++ d.value := by
    have hkey := afterKey?_append he.key (e.gap ++ e.value)
    rw [hbehind, afterKey?_append hd.key] at hkey
    exact (Option.some.inj hkey).symm
  obtain ⟨start, key, gap, value⟩ := e
  obtain ⟨otherStart, otherKey, otherGap, otherValue⟩ := d
  obtain rfl : value = otherValue := hlead.2
  obtain rfl := List.append_cancel_right hrest
  obtain rfl := List.append_cancel_right (List.append_cancel_right hbehind)
  obtain rfl := List.append_cancel_right hlead.1
  rfl

end TextEntry

theorem mem_repair_iff {text : Text} {change : Change} :
    change ∈ (repair text).2 ↔ ∃ (place : Nat) (e : TextEntry),
      change = ⟨place + 1, e.line, e.quotedLine⟩ ∧ e.IsUnquoted ∧
        (rows text)[place]? = some e.line := by
  rw [repair, repairLines_eq]
  dsimp only
  rw [mem_changesFrom]
  constructor
  · rintro ⟨place, hplace, hrow, hafter⟩
    obtain ⟨e, hform, hbefore, hquoted⟩ := repairedLine?_eq_some_iff.1 hafter
    refine ⟨place, e, ?_, hform, by rw [hbefore, hrow]⟩
    rw [hbefore, hquoted, Nat.add_comm place 1, ← hplace]
  · rintro ⟨place, e, rfl, hform, hrow⟩
    exact ⟨place, Nat.add_comm place 1, hrow, repairedLine?_eq_some_iff.2 ⟨e, hform, rfl, rfl⟩⟩

/-- The repair changes exactly the rows of a text that have the form of an unquoted entry. All that
it changes are entries of the schema exactly when every row of that form is one: when its key stands
behind indentation and its colon in front of a space, its value starts as a plain scalar may, and it
is not content of a block scalar. -/
theorem repair_quotes_entries_iff (text : Text) :
    (∀ change, change ∈ (repair text).2 ↔ ∃ (place : Nat) (e : TextEntry),
      change = ⟨place + 1, e.line, e.quotedLine⟩ ∧ e.IsUnquoted ∧
        (rows text)[place]? = some e.line) ∧
    ((∀ change ∈ (repair text).2, change.QuotesEntry (rows text)) ↔
      ∀ (place : Nat) (e : TextEntry), e.IsUnquoted → (rows text)[place]? = some e.line →
        e.IsEntryAt (rows text) place) := by
  refine ⟨fun _ => mem_repair_iff, ?_, ?_⟩
  · intro hall place e hform hrow
    obtain ⟨other, d, hsame, hother, hentry⟩ :=
      hall _ (mem_repair_iff.2 ⟨place, e, rfl, hform, hrow⟩)
    obtain ⟨hplace, hline, -⟩ := Change.mk.inj hsame
    obtain rfl := Nat.succ.inj hplace
    rwa [hform.unique hother hline]
  · intro hall change hchange
    obtain ⟨place, e, rfl, hform, hrow⟩ := mem_repair_iff.1 hchange
    exact ⟨place, e, rfl, hform, hall place e hform hrow⟩

/-- A text whose documentation holds a line in the form of an entry. The key in its last line is
longer than the one that is looked for, since no space follows the first colon. -/
def notedText : Text := "documentation: |\n  title: a: b\nname:c: d\n"

theorem inBlockScalar_notedText : InBlockScalar (rows notedText) 1 := by
  refine ⟨0, 0, ("documentation: |" : String), Nat.one_pos, by decide, ?_, ?_⟩
  · exact @OpensBlockScalar.intro 0 [] "documentation" " " [] 'd' '|' (.spaces 0) rfl rfl
      (by decide) (by decide) (List.cons_ne_nil _ _) (by decide) (.inl rfl)
  · intro i line hlow hhigh hline
    obtain rfl : i = 1 := by omega
    have hrow : (rows notedText)[1]? = some (("  title: a: b" : String) : Text) := by decide
    rw [← Option.some.inj (hrow.symm.trans hline)]
    exact .inr (by decide)

/-- The repair does not change entries of the schema alone: it puts quotation marks into the text of
a block scalar, and behind a colon that ends no key. -/
theorem not_all_repairs_quote_entries :
    (InBlockScalar (rows notedText) 1 ∧
      ∃ change ∈ (repair notedText).2, change.line = 2 ∧ ¬change.QuotesEntry (rows notedText)) ∧
    ∃ change ∈ (repair notedText).2, change.before = "name:c: d" ∧
      ¬change.QuotesEntry (rows notedText) := by
  constructor
  · refine ⟨inBlockScalar_notedText, ⟨2, "  title: a: b", "  title: \"a: b\""⟩, by decide, rfl, ?_⟩
    rintro ⟨place, e, hchange, -, hentry⟩
    obtain rfl : 1 = place := Nat.succ.inj (Change.mk.inj hchange).1
    exact hentry.outside inBlockScalar_notedText
  · refine ⟨⟨3, "name:c: d", "name:\"c: d\""⟩, by decide, rfl, ?_⟩
    rintro ⟨place, e, hchange, hform, hentry⟩
    have hunspaced : (⟨[], ("name" : String), [], ("c: d" : String)⟩ : TextEntry).IsUnquoted :=
      { start := .blank nofun
        key := by decide
        gap := nofun
        value := by decide
        colon := ⟨[.char 'c'], ((" d" : String) : Text), rfl, by decide⟩ }
    obtain rfl := hform.unique hunspaced (Change.mk.inj hchange).2.1.symm
    cases hentry.spaced

/-- A repaired line needs no further repair: its value now starts with a quotation mark. -/
theorem repairedLine?_repairedLine (line : Text) : repairedLine? (repairedLine line) = none := by
  cases hline : repairedLine? line with
  | none =>
    rw [repairedLine, hline]
    exact hline
  | some after =>
    obtain ⟨e, hform, -, rfl⟩ := repairedLine?_eq_some_iff.1 hline
    have hquote : (enclose e.value).head? = some (.char '"') := rfl
    have hentry := hform.entry?_append hquote (by decide)
    rw [repairedLine, hline, Option.getD_some, TextEntry.quotedLine, repairedLine?, hentry]
    rfl

theorem mem_feedLines_repair {text line : Text} (h : line ∈ feedLines (repair text).1) :
    line = [] ∨ ∃ row ∈ rows text, line = repairedLine row := by
  have hjoined : ∀ piece ∈ feedLines (joinLines ((rows text).map repairedLine)),
      piece = [] ∨ ∃ row ∈ rows text, piece = repairedLine row := by
    intro piece hpiece
    by_cases hrows : (rows text).map repairedLine = []
    · rw [hrows] at hpiece
      exact .inl (List.mem_singleton.1 hpiece)
    · have hfree : ∀ row ∈ (rows text).map repairedLine, CodePoint.char '\n' ∉ row := by
        simp only [List.forall_mem_map]
        intro row hrow
        refine feed_notMem_repairedLine fun hfeed => ?_
        exact absurd (isLineEnd_of_mem_rows hrow hfeed) (by decide)
      rw [feedLines_joinLines hrows hfree] at hpiece
      obtain ⟨row, hrow, rfl⟩ := List.mem_map.1 hpiece
      exact .inr ⟨row, hrow, rfl⟩
  rw [repair, repairLines_eq] at h
  dsimp only at h
  split at h
  · change line ∈ feedLines (_ ++ [.char '\n']) at h
    rw [feedLines_concat_feed] at h
    rcases List.mem_append.1 h with hline | hlast
    · exact hjoined line hline
    · exact .inl (List.mem_singleton.1 hlast)
  · rw [List.append_nil] at h
    exact hjoined line h

/-- The repair leaves nothing to repair: a second one reports no change and gives the text that it
was given, whatever line ends stood in the first. -/
theorem repair_idempotent (text : Text) :
    repair (repair text).1 = ((repair text).1, []) := by
  have hnone : ∀ line ∈ feedLines (repair text).1, repairedLine? line = none := by
    intro line hline
    rcases mem_feedLines_repair hline with rfl | ⟨row, -, rfl⟩
    · decide
    · exact repairedLine?_repairedLine row
  have hsame : (feedLines (repair text).1).map repairedLine = feedLines (repair text).1 := by
    calc (feedLines (repair text).1).map repairedLine
      _ = (feedLines (repair text).1).map id := by
        refine List.map_congr_left fun line hline => ?_
        rw [repairedLine, hnone line hline]
        rfl
      _ = feedLines (repair text).1 := List.map_id _
  have hchanges : changesFrom 1 (feedLines (repair text).1) = [] := by
    refine List.eq_nil_iff_forall_not_mem.2 fun change hchange => ?_
    obtain ⟨i, -, hline, hafter⟩ := mem_changesFrom.1 hchange
    rw [hnone _ (List.mem_of_getElem? hline)] at hafter
    cases hafter
  rw [repair_eq fun _ => eq_feed_of_mem_repair, hsame, hchanges, joinLines_feedLines]

end SchemaBook.Repair
