import SchemaBook.Loader.Repair
import SchemaBook.Proofs.Text.Feeds

/-!
The repair of a schema text, line by line. A line is replaced where it stands, but the lines are cut
at every line end and put together with line feeds, so the repair keeps to the lines that it reports
only where line feeds are the only line ends. Main statement: the repair leaves the lines of a text
at their places, and all that it does not report as they are, exactly when every line end in the
text is a line feed.
-/

namespace SchemaBook

namespace Text

/-- No row holds a line end. -/
theorem isLineEnd_of_mem_rows {text row : Text} (h : row ∈ rows text) {c : CodePoint}
    (hc : c ∈ row) : isLineEnd c = false := by
  unfold rows at h
  dsimp only at h
  split at h
  · exact not_of_mem_splitWhere (List.mem_of_mem_dropLast h) hc
  · exact not_of_mem_splitWhere h hc

/-- Where line feeds are the only line ends, the rows are the lines, but for an empty last one. -/
theorem rows_eq_feedLines {text : Text} (h : ∀ c ∈ text, isLineEnd c = true → c = .char '\n') :
    rows text = if (feedLines text).getLast? = some [] then (feedLines text).dropLast
      else feedLines text := by
  have hreturn : CodePoint.char '\r' ∉ text := by
    intro hmem
    exact absurd (h _ hmem (by decide)) (by decide)
  have hlines : splitWhere isLineEnd text = feedLines text := by
    refine splitWhere_congr fun c hc => ?_
    rw [Bool.eq_iff_iff, beq_iff_eq]
    refine ⟨h c hc, ?_⟩
    rintro rfl
    decide
  rw [rows, joinReturns_of_notMem hreturn, hlines]

end Text

namespace Repair

open Text

theorem exists_key_of_afterKey? {cs rest : Text} (h : afterKey? cs = some rest) :
    ∃ key ∈ textKeys, cs = key ++ ":" ++ rest := by
  obtain ⟨key, hkey, hprefix⟩ := List.exists_of_findSome?_eq_some h
  exact ⟨key, hkey, append_of_isPrefixOf? hprefix⟩

theorem suffix_of_afterKey? {cs rest : Text} (h : afterKey? cs = some rest) : rest <:+ cs := by
  obtain ⟨key, -, rfl⟩ := exists_key_of_afterKey? h
  exact List.suffix_append _ rest

/-- What stands behind the start of a line. -/
def behindStart (line : Text) : Text :=
  match line.dropWhile CodePoint.isBlank with
  | .char '-' :: rest => rest.dropWhile CodePoint.isBlank
  | other => other

/-- The value behind a colon; of white space alone it is the last character. -/
def valueBehind (rest : Text) : Text :=
  let value := rest.dropWhile CodePoint.isBlank
  if value.isEmpty then rest.drop (rest.length - 1) else value

theorem entry?_eq (line : Text) :
    entry? line = (afterKey? (behindStart line)).bind fun rest =>
      if (valueBehind rest).isEmpty then none
      else some (line.take (line.length - (valueBehind rest).length), valueBehind rest) := by
  unfold entry? behindStart
  dsimp only
  cases afterKey? _ <;> rfl

theorem behindStart_suffix (line : Text) : behindStart line <:+ line := by
  have hblank := List.dropWhile_suffix (l := line) CodePoint.isBlank
  unfold behindStart
  split
  · next rest hrest =>
    rw [hrest] at hblank
    exact ((List.dropWhile_suffix _).trans (List.suffix_cons _ rest)).trans hblank
  · exact hblank

theorem valueBehind_suffix (rest : Text) : valueBehind rest <:+ rest := by
  unfold valueBehind
  dsimp only
  split
  · exact List.drop_suffix _ rest
  · exact List.dropWhile_suffix _

/-- An entry is the line, cut in two. -/
theorem append_of_entry? {line lead value : Text} (h : entry? line = some (lead, value)) :
    lead ++ value = line := by
  rw [entry?_eq, Option.bind_eq_some_iff] at h
  obtain ⟨rest, hkey, hvalue⟩ := h
  split at hvalue
  · cases hvalue
  · obtain ⟨rfl, rfl⟩ := Prod.mk.inj (Option.some.inj hvalue)
    have hrest := (suffix_of_afterKey? hkey).trans (behindStart_suffix line)
    exact List.suffix_iff_eq_append.1 ((valueBehind_suffix rest).trans hrest)

/-- The line as it stands after the repair. -/
def repairedLine (line : Text) : Text := (repairedLine? line).getD line

theorem mem_enclose {value : Text} {c : CodePoint} (h : c ∈ enclose value) :
    c ∈ value ∨ c = '"' ∨ c = '\\' := by
  have hquote : ∀ d ∈ (("\"" : String) : Text), d = .char '"' := by decide
  rcases List.mem_append.1 h with hfront | hend
  · rcases List.mem_append.1 hfront with hstart | hvalue
    · exact .inr (.inl (hquote c hstart))
    · obtain ⟨d, hd, hcode⟩ := List.mem_flatMap.1 hvalue
      unfold escape at hcode
      split at hcode
      · rcases List.mem_pair.1 hcode with rfl | rfl
        · exact .inr (.inr rfl)
        · exact .inl hd
      · rw [List.mem_singleton.1 hcode]
        exact .inl hd
  · exact .inr (.inl (hquote c hend))

theorem mem_repairedLine {line : Text} {c : CodePoint} (h : c ∈ repairedLine line) :
    c ∈ line ∨ c = '"' ∨ c = '\\' := by
  unfold repairedLine repairedLine? at h
  split at h
  · exact .inl h
  · next lead value hentry =>
    rw [← append_of_entry? hentry, List.mem_append]
    split at h
    · rcases List.mem_append.1 h with hlead | hvalue
      · exact .inl (.inl hlead)
      · exact (mem_enclose hvalue).imp_left .inr
    · rw [Option.getD_none, ← append_of_entry? hentry] at h
      exact .inl (List.mem_append.1 h)

/-- The repair ends no line. -/
theorem feed_notMem_repairedLine {line : Text} (h : CodePoint.char '\n' ∉ line) :
    CodePoint.char '\n' ∉ repairedLine line := by
  intro hfeed
  rcases mem_repairedLine hfeed with hgiven | hquote | hslash
  · exact h hgiven
  · exact absurd hquote (by decide)
  · exact absurd hslash (by decide)

/-- The changes to lines, counted from a number. -/
def changesFrom (number : Nat) (lines : List Text) : List Change :=
  (lines.zipIdx number).filterMap fun entry =>
    (repairedLine? entry.1).map fun after => ⟨entry.2, entry.1, after⟩

theorem repairLines_eq (number : Nat) (lines : List Text) :
    repairLines number lines = (lines.map repairedLine, changesFrom number lines) := by
  induction lines generalizing number with
  | nil => rfl
  | cons line rest ih =>
    rw [repairLines, ih]
    cases hline : repairedLine? line <;> simp [changesFrom, repairedLine, hline]

theorem mem_changesFrom {number : Nat} {lines : List Text} {change : Change} :
    change ∈ changesFrom number lines ↔
      ∃ i : Nat, change.line = number + i ∧ lines[i]? = some change.before ∧
        repairedLine? change.before = some change.after := by
  simp only [changesFrom, List.mem_filterMap, Option.map_eq_some_iff]
  constructor
  · rintro ⟨⟨line, place⟩, hentry, after, hafter, rfl⟩
    obtain ⟨hplace, hline⟩ := List.mk_mem_zipIdx_iff_le_and_getElem?_sub.1 hentry
    exact ⟨place - number, by dsimp only; omega, hline, hafter⟩
  · rintro ⟨i, hplace, hline, hafter⟩
    refine ⟨(change.before, number + i), ?_, change.after, hafter, by rw [← hplace]⟩
    rw [List.mk_mem_zipIdx_iff_le_and_getElem?_sub, Nat.add_sub_cancel_left]
    exact ⟨Nat.le_add_right number i, hline⟩

theorem changesFrom_concat_nil (number : Nat) (lines : List Text) :
    changesFrom number (lines ++ [[]]) = changesFrom number lines := by
  have hempty : repairedLine? [] = none := by decide
  simp [changesFrom, List.zipIdx_append, hempty]

/-- Where line feeds are the only line ends, the repair goes line by line. -/
theorem repair_eq {text : Text} (h : ∀ c ∈ text, isLineEnd c = true → c = .char '\n') :
    repair text =
      (joinLines ((feedLines text).map repairedLine), changesFrom 1 (feedLines text)) := by
  have hempty : repairedLine [] = [] := by decide
  rw [repair, rows_eq_feedLines h]
  by_cases hlast : (feedLines text).getLast? = some []
  · rcases eq_nil_or_concat_feed hlast with rfl | ⟨before, rfl⟩
    · decide
    · have hne : (feedLines before).map repairedLine ≠ [] := by simp [feedLines_ne_nil]
      rw [if_pos hlast, feedLines_concat_feed, List.dropLast_concat, repairLines_eq,
        changesFrom_concat_nil, List.map_append, List.map_singleton, hempty,
        joinLines_concat hne, List.getLast?_concat]
      rfl
  · have hend : text.getLast? ≠ some (.char '\n') := by
      intro hfeed
      obtain ⟨before, rfl⟩ := List.getLast?_eq_some_iff.1 hfeed
      rw [feedLines_concat_feed, List.getLast?_concat] at hlast
      exact hlast rfl
    rw [if_neg hlast, repairLines_eq]
    dsimp only
    rw [if_neg hend, List.append_nil]

/-- The only line ends that the repair leaves are line feeds. -/
theorem eq_feed_of_mem_repair {text : Text} {c : CodePoint} (hc : c ∈ (repair text).1)
    (hend : isLineEnd c = true) : c = .char '\n' := by
  have hending : ∀ d ∈ (if text.getLast? = some (.char '\n') then ("\n" : Text) else []),
      d = .char '\n' := by
    split
    · decide
    · intro d hd
      cases hd
  rw [repair, repairLines_eq] at hc
  rcases List.mem_append.1 hc with hline | hlast
  · rcases mem_joinLines hline with hfeed | ⟨line, hmem, hcline⟩
    · exact hfeed
    · obtain ⟨row, hrow, rfl⟩ := List.mem_map.1 hmem
      rcases mem_repairedLine hcline with hgiven | rfl | rfl
      · rw [isLineEnd_of_mem_rows hrow hgiven] at hend
        cases hend
      · exact absurd hend (by decide)
      · exact absurd hend (by decide)
  · exact hending c hlast

/-- The repair leaves the lines of a text at their places: there are as many as before, those that
it reports are replaced as it reports, and all others are as they were. -/
structure InPlace (text : Text) : Prop where
  length : (feedLines (repair text).1).length = (feedLines text).length
  reported : ∀ change ∈ (repair text).2, ∃ i : Nat, change.line = i + 1 ∧
    (feedLines text)[i]? = some change.before ∧
    (feedLines (repair text).1)[i]? = some change.after
  others : ∀ i : Nat, (∀ change ∈ (repair text).2, change.line ≠ i + 1) →
    (feedLines (repair text).1)[i]? = (feedLines text)[i]?
  unchanged : (repair text).2 = [] → (repair text).1 = text

theorem inPlace_of_feeds {text : Text} (h : ∀ c ∈ text, isLineEnd c = true → c = .char '\n') :
    InPlace text := by
  have hlines : feedLines (repair text).1 = (feedLines text).map repairedLine := by
    rw [repair_eq h]
    refine feedLines_joinLines (by simp [feedLines_ne_nil]) ?_
    intro piece hpiece
    obtain ⟨line, hline, rfl⟩ := List.mem_map.1 hpiece
    exact feed_notMem_repairedLine (feed_notMem_of_mem_feedLines hline)
  have hchanges : (repair text).2 = changesFrom 1 (feedLines text) := by rw [repair_eq h]
  have hothers : ∀ i : Nat, (∀ change ∈ (repair text).2, change.line ≠ i + 1) →
      (feedLines (repair text).1)[i]? = (feedLines text)[i]? := by
    intro i hnone
    rw [hlines, List.getElem?_map]
    cases hline : (feedLines text)[i]? with
    | none => rfl
    | some line =>
      have hsame : repairedLine? line = none := by
        refine Option.eq_none_iff_forall_not_mem.2 fun after hafter => ?_
        refine hnone ⟨1 + i, line, after⟩ ?_ (Nat.add_comm 1 i)
        rw [hchanges]
        exact mem_changesFrom.2 ⟨i, rfl, hline, hafter⟩
      rw [Option.map_some, repairedLine, hsame, Option.getD_none]
  constructor
  case length => rw [hlines, List.length_map]
  case reported =>
    intro change hchange
    rw [hchanges] at hchange
    obtain ⟨i, hplace, hbefore, hafter⟩ := mem_changesFrom.1 hchange
    refine ⟨i, hplace.trans (Nat.add_comm 1 i), hbefore, ?_⟩
    rw [hlines, List.getElem?_map, hbefore, Option.map_some, repairedLine, hafter,
      Option.getD_some]
  case others => exact hothers
  case unchanged =>
    intro hnone
    have hsame : feedLines (repair text).1 = feedLines text := by
      refine List.ext_getElem? fun i => hothers i ?_
      rw [hnone]
      intro change hchange
      cases hchange
    rw [← joinLines_feedLines (repair text).1, hsame, joinLines_feedLines]

theorem InPlace.eq_feed {text : Text} (h : InPlace text) {c : CodePoint} (hc : c ∈ text)
    (hend : isLineEnd c = true) : c = .char '\n' := by
  by_contra hne
  obtain ⟨line, hline, hmem⟩ := (mem_feedLines_iff hne).2 hc
  obtain ⟨i, hi⟩ := List.getElem?_of_mem hline
  by_cases hreported : ∃ change ∈ (repair text).2, change.line = i + 1
  · -- What stood in a reported line is a row, and rows hold no line ends.
    obtain ⟨change, hchange, hplace⟩ := hreported
    obtain ⟨j, hj, hbefore, -⟩ := h.reported change hchange
    obtain rfl : j = i := by omega
    obtain rfl := Option.some.inj (hi.symm.trans hbefore)
    rw [repair, repairLines_eq] at hchange
    obtain ⟨place, -, hrow, -⟩ := mem_changesFrom.1 hchange
    rw [isLineEnd_of_mem_rows (List.mem_of_getElem? hrow) hmem] at hend
    cases hend
  · have hsame := h.others i fun change hchange hplace => hreported ⟨change, hchange, hplace⟩
    have hkept : c ∈ (repair text).1 :=
      (mem_feedLines_iff hne).1 ⟨line, List.mem_of_getElem? (hsame.trans hi), hmem⟩
    exact hne (eq_feed_of_mem_repair hkept hend)

/-- The repair of a text leaves its lines at their places, and all that it does not report as they
are, exactly when every line end in the text is a line feed. -/
theorem repair_inPlace_iff (text : Text) :
    InPlace text ↔ ∀ c ∈ text, isLineEnd c = true → c = .char '\n' :=
  ⟨fun h _ hc hend => h.eq_feed hc hend, inPlace_of_feeds⟩

/-- A text with a line separator in a value, in front of a line that needs quotation marks. -/
def separatedText : Text := "name: A\u2028B\ntitle: a: b\n"

/-- The repair does not leave all texts without carriage returns in place: the separator ends a
line, so the value is cut in two and the line behind it is reported with a number that is not its
own. -/
theorem not_all_repairs_inPlace :
    ¬∀ text : Text, CodePoint.char '\r' ∉ text → InPlace text := by
  intro hall
  have hlength := (hall separatedText (by decide)).length
  revert hlength
  decide

end Repair

end SchemaBook
