import Mathlib.Data.List.TakeWhile
import Mathlib.Tactic
import SchemaBook.Text.Split

/-!
Texts cut into lines, and what is cut out of a line. Main statements: lines that are joined are read
back, pieces that are joined by what cut them are the text again, every occurrence of a pattern is
found, and words stand in their text as they are and hold no white space.
-/

namespace SchemaBook

namespace Text

theorem append_of_isPrefixOf? {pattern text rest : Text}
    (h : pattern.isPrefixOf? text = some rest) : text = pattern ++ rest := by
  induction pattern generalizing text with
  | nil =>
    simp only [List.isPrefixOf?, Option.some.injEq] at h
    exact h
  | cons c pattern ih =>
    cases text with
    | nil => cases h
    | cons d text =>
      simp only [List.isPrefixOf?] at h
      split at h
      · next hcd => rw [beq_iff_eq.1 hcd, ih h, List.cons_append]
      · cases h

theorem isPrefixOf?_append (pattern rest : Text) :
    pattern.isPrefixOf? (pattern ++ rest) = some rest := by
  induction pattern with
  | nil => rfl
  | cons c pattern ih => simp [List.isPrefixOf?, ih]

theorem append_of_after? {pattern line rest : Text} (h : after? pattern line = some rest) :
    ∃ before, line = before ++ (pattern ++ rest) := by
  induction line with
  | nil =>
    cases pattern with
    | nil =>
      obtain rfl := Option.some.inj h
      exact ⟨[], rfl⟩
    | cons c pattern => cases h
  | cons c line ih =>
    unfold after? at h
    split at h
    · next found hfound =>
      obtain rfl := Option.some.inj h
      refine ⟨[], ?_⟩
      rw [List.nil_append]
      exact append_of_isPrefixOf? hfound
    · obtain ⟨before, hline⟩ := ih h
      exact ⟨c :: before, congrArg (c :: ·) hline⟩

theorem after?_append {pattern : Text} (h : pattern ≠ []) (rest : Text) :
    after? pattern (pattern ++ rest) = some rest := by
  obtain ⟨c, more, rfl⟩ := List.exists_cons_of_ne_nil h
  have hhere := isPrefixOf?_append (c :: more) rest
  rw [List.cons_append] at hhere ⊢
  rw [after?, hhere]

theorem mem_allAfter_iff {pattern line rest : Text} :
    rest ∈ allAfter pattern line ↔ ∃ before, line = before ++ (pattern ++ rest) := by
  induction line with
  | nil =>
    cases pattern with
    | nil => simp [allAfter]
    | cons c pattern => simp [allAfter]
  | cons c line ih =>
    simp only [allAfter, List.mem_append, Option.mem_toList, ih]
    constructor
    · rintro (hfound | ⟨before, hline⟩)
      · refine ⟨[], ?_⟩
        rw [List.nil_append]
        exact append_of_isPrefixOf? hfound
      · exact ⟨c :: before, congrArg (c :: ·) hline⟩
    · rintro ⟨before, hline⟩
      cases before with
      | nil =>
        rw [List.nil_append] at hline
        rw [hline]
        exact .inl (isPrefixOf?_append pattern rest)
      | cons d before =>
        rw [List.cons_append, List.cons.injEq] at hline
        exact .inr ⟨before, hline.2⟩

theorem splitWhere_of_forall_not {α : Type} {test : α → Bool} {xs : List α}
    (h : ∀ a ∈ xs, test a = false) : splitWhere test xs = [xs] := by
  induction xs with
  | nil => rfl
  | cons a rest ih =>
    have ha := h a List.mem_cons_self
    have hrest := ih fun b hb => h b (List.mem_cons_of_mem a hb)
    simp [splitWhere, ha, hrest]

theorem splitWhere_append_cons {α : Type} {test : α → Bool} {xs ys : List α} {a : α}
    (h : ∀ b ∈ xs, test b = false) (ha : test a = true) :
    splitWhere test (xs ++ a :: ys) = xs :: splitWhere test ys := by
  induction xs with
  | nil => simp [splitWhere, ha]
  | cons b rest ih =>
    have hb := h b List.mem_cons_self
    have hrest := ih fun c hc => h c (List.mem_cons_of_mem b hc)
    simp [splitWhere, hb, hrest]

theorem splitWhere_congr {α : Type} {test other : α → Bool} {xs : List α}
    (h : ∀ a ∈ xs, test a = other a) : splitWhere test xs = splitWhere other xs := by
  induction xs with
  | nil => rfl
  | cons a rest ih =>
    have ha := h a List.mem_cons_self
    have hrest := ih fun b hb => h b (List.mem_cons_of_mem a hb)
    simp only [splitWhere, ha, hrest]

/-- Pieces without cut elements that are joined by one are read back. -/
theorem splitWhere_intercalate {α : Type} {test : α → Bool} {a : α} (ha : test a = true)
    {pieces : List (List α)} (hne : pieces ≠ [])
    (h : ∀ piece ∈ pieces, ∀ b ∈ piece, test b = false) :
    splitWhere test ([a].intercalate pieces) = pieces := by
  induction pieces with
  | nil => exact absurd rfl hne
  | cons piece rest ih =>
    have hpiece := h piece List.mem_cons_self
    cases rest with
    | nil =>
      rw [List.intercalate_singleton]
      exact splitWhere_of_forall_not hpiece
    | cons next rest =>
      have hrest := ih (List.cons_ne_nil next rest) fun other hother =>
        h other (List.mem_cons_of_mem piece hother)
      rw [List.intercalate_cons_cons, List.append_assoc, List.singleton_append,
        splitWhere_append_cons hpiece ha, hrest]

theorem exists_splitWhere_cons {α : Type} {test : α → Bool} {a : α} (h : test a = false)
    (rest : List α) :
    ∃ piece pieces, splitWhere test rest = piece :: pieces ∧
      splitWhere test (a :: rest) = (a :: piece) :: pieces := by
  obtain ⟨piece, pieces, hrest⟩ := List.exists_cons_of_ne_nil (splitWhere_ne_nil test rest)
  exact ⟨piece, pieces, hrest, by simp [splitWhere, h, hrest]⟩

/-- Where all cut elements are the same, joining by it puts the pieces together again. -/
theorem intercalate_splitWhere {α : Type} {test : α → Bool} {a : α} {xs : List α}
    (h : ∀ b ∈ xs, test b = true → b = a) : [a].intercalate (splitWhere test xs) = xs := by
  induction xs with
  | nil => simp [splitWhere]
  | cons b rest ih =>
    have hrest := ih fun c hc => h c (List.mem_cons_of_mem b hc)
    cases hb : test b with
    | true =>
      obtain ⟨piece, pieces, hpieces⟩ := List.exists_cons_of_ne_nil (splitWhere_ne_nil test rest)
      rw [hpieces] at hrest
      rw [splitWhere, if_pos hb, hpieces, List.intercalate_cons_cons, hrest,
        h b List.mem_cons_self hb]
      rfl
    | false =>
      obtain ⟨piece, pieces, hpieces, hcons⟩ := exists_splitWhere_cons hb rest
      rw [hpieces] at hrest
      rw [hcons, ← hrest]
      cases pieces with
      | nil => simp
      | cons next pieces => simp [List.intercalate_cons_cons]

/-- Where no two cut elements are neighbours and none is the last one, no piece but the first can be
empty. -/
theorem nil_notMem_tail_splitWhere {α : Type} {test : α → Bool} {xs : List α}
    (hsingle : xs.IsChain fun a b => ¬(test a = true ∧ test b = true))
    (hend : ∀ a ∈ xs.getLast?, test a = false) : [] ∉ (splitWhere test xs).tail := by
  induction xs with
  | nil => simp [splitWhere]
  | cons a rest ih =>
    cases rest with
    | nil => cases ha : test a <;> simp_all [splitWhere]
    | cons b more =>
      rw [List.getLast?_cons_cons] at hend
      obtain ⟨hpair, hmore⟩ := List.isChain_cons_cons.1 hsingle
      have hrest := ih hmore hend
      cases ha : test a with
      | true =>
        have hb : test b = false := by
          rw [← Bool.not_eq_true]
          exact fun hb => hpair ⟨ha, hb⟩
        obtain ⟨piece, pieces, -, hcons⟩ := exists_splitWhere_cons hb more
        rw [hcons, List.tail_cons] at hrest
        rw [splitWhere, if_pos ha, List.tail_cons, hcons]
        simpa using hrest
      | false =>
        obtain ⟨piece, pieces, hpieces, hcons⟩ := exists_splitWhere_cons ha (b :: more)
        rw [hpieces] at hrest
        rwa [hcons]

theorem nil_notMem_splitWhere {α : Type} {test : α → Bool} {xs : List α} (hne : xs ≠ [])
    (hstart : ∀ a ∈ xs.head?, test a = false)
    (hsingle : xs.IsChain fun a b => ¬(test a = true ∧ test b = true))
    (hend : ∀ a ∈ xs.getLast?, test a = false) : [] ∉ splitWhere test xs := by
  obtain ⟨a, rest, rfl⟩ := List.exists_cons_of_ne_nil hne
  have htail := nil_notMem_tail_splitWhere hsingle hend
  obtain ⟨piece, pieces, -, hcons⟩ := exists_splitWhere_cons (hstart a rfl) rest
  rw [hcons, List.tail_cons] at htail
  rw [hcons]
  simpa using htail

theorem join_cons_ne_nil (separator : Text) {piece : Text} (h : piece ≠ []) (rest : List Text) :
    join separator (piece :: rest) ≠ [] := by
  cases rest with
  | nil => rwa [join, List.intercalate_singleton]
  | cons next rest =>
    rw [join, List.intercalate_cons_cons, List.append_assoc]
    exact List.append_ne_nil_of_left_ne_nil h _

/-- What is written in place of each element may be written before the pieces are joined. -/
theorem flatMap_intercalate {α β : Type} (f : α → List β) (separator : List α)
    (pieces : List (List α)) :
    (separator.intercalate pieces).flatMap f =
      (separator.flatMap f).intercalate (pieces.map (·.flatMap f)) := by
  induction pieces with
  | nil => rfl
  | cons piece rest ih =>
    cases rest with
    | nil => simp
    | cons next rest =>
      rw [List.intercalate_cons_cons, List.flatMap_append, List.flatMap_append, ih]
      simp only [List.map_cons, List.intercalate_cons_cons]

theorem not_of_mem_splitWhere {α : Type} {test : α → Bool} {xs piece : List α} {a : α}
    (hpiece : piece ∈ splitWhere test xs) (ha : a ∈ piece) : test a = false := by
  have hflat : a ∈ (splitWhere test xs).flatten := List.mem_flatten.2 ⟨piece, hpiece, ha⟩
  rw [flatten_splitWhere] at hflat
  simpa using (List.mem_filter.1 hflat).2

theorem ne_nil_of_mem_words {cs piece : Text} (h : piece ∈ words cs) : piece ≠ [] := by
  simpa using (List.mem_filter.1 h).2

theorem isBlank_of_mem_words {cs piece : Text} (h : piece ∈ words cs) {c : CodePoint}
    (hc : c ∈ piece) : c.isBlank = false :=
  not_of_mem_splitWhere (List.mem_filter.1 h).1 hc

theorem joinReturns_cons {c : CodePoint} (h : c ≠ .char '\r') (rest : Text) :
    joinReturns (c :: rest) = c :: joinReturns rest := by
  rw [joinReturns]
  intro _ heq
  exact absurd heq h

theorem joinReturns_eq_nil_iff {cs : Text} : joinReturns cs = [] ↔ cs = [] := by
  unfold joinReturns
  split <;> simp

theorem joinReturns_of_notMem {cs : Text} (h : CodePoint.char '\r' ∉ cs) : joinReturns cs = cs := by
  induction cs with
  | nil => rfl
  | cons c rest ih =>
    rw [List.mem_cons, not_or] at h
    rw [joinReturns_cons (Ne.symm h.1), ih h.2]

theorem mem_joinLines {lines : List Text} {c : CodePoint} (h : c ∈ joinLines lines) :
    c = '\n' ∨ ∃ line ∈ lines, c ∈ line := by
  unfold joinLines join at h
  induction lines with
  | nil => cases h
  | cons line rest ih =>
    cases rest with
    | nil =>
      rw [List.intercalate_singleton] at h
      exact .inr ⟨line, List.mem_cons_self, h⟩
    | cons next rest =>
      rw [List.intercalate_cons_cons, List.mem_append, List.mem_append, List.mem_singleton] at h
      rcases h with (hline | hend) | hrest
      · exact .inr ⟨line, List.mem_cons_self, hline⟩
      · exact .inl hend
      · rcases ih hrest with hend | ⟨other, hother, hc⟩
        · exact .inl hend
        · exact .inr ⟨other, List.mem_cons_of_mem line hother, hc⟩

theorem joinLines_singleton (line : Text) : joinLines [line] = line := by
  rw [joinLines, join, List.intercalate_singleton]

theorem joinLines_concat {pieces : List Text} (h : pieces ≠ []) (last : Text) :
    joinLines (pieces ++ [last]) = joinLines pieces ++ .char '\n' :: last := by
  unfold joinLines join
  induction pieces with
  | nil => exact absurd rfl h
  | cons piece rest ih =>
    cases rest with
    | nil => simp [List.intercalate_cons_cons]
    | cons next rest =>
      have hrest := ih (List.cons_ne_nil next rest)
      rw [List.cons_append] at hrest
      rw [List.cons_append, List.cons_append, List.intercalate_cons_cons, hrest,
        List.intercalate_cons_cons]
      simp only [List.append_assoc]

/-- Lines that are not empty and hold no line end are read back when they are joined. -/
theorem lines_joinLines {pieces : List Text} (hne : ∀ piece ∈ pieces, piece ≠ [])
    (hfeed : ∀ piece ∈ pieces, CodePoint.char '\n' ∉ piece)
    (hreturn : ∀ piece ∈ pieces, CodePoint.char '\r' ∉ piece) :
    lines (joinLines pieces) = pieces := by
  cases pieces with
  | nil => rfl
  | cons first rest =>
    have htext : joinLines (first :: rest) ≠ [] :=
      join_cons_ne_nil _ (hne first List.mem_cons_self) rest
    have hreturns : CodePoint.char '\r' ∉ joinLines (first :: rest) := by
      intro hmem
      rcases mem_joinLines hmem with heq | ⟨piece, hpiece, hc⟩
      · exact absurd heq (by decide)
      · exact hreturn piece hpiece hc
    have hpieces : ∀ piece ∈ first :: rest, ∀ c ∈ piece, (c == CodePoint.char '\n') = false := by
      intro piece hpiece c hc
      rw [beq_eq_false_iff_ne]
      intro heq
      exact hfeed piece hpiece (heq ▸ hc)
    rw [lines, if_neg (by simpa using htext), joinReturns_of_notMem hreturns]
    refine splitWhere_intercalate ?_ (List.cons_ne_nil first rest) hpieces
    exact beq_self_eq_true _

/-- A trimmed text stands in the text, and white space stands behind it. -/
theorem exists_trim (cs : Text) :
    ∃ before after, cs = before ++ (trim cs ++ after) ∧ ∀ c ∈ after, c.isBlank = true := by
  refine ⟨cs.takeWhile CodePoint.isBlank,
    ((trimStart cs).reverse.takeWhile CodePoint.isBlank).reverse, ?_, ?_⟩
  · have hend : trim cs ++ ((trimStart cs).reverse.takeWhile CodePoint.isBlank).reverse =
        trimStart cs := by
      rw [trim, trimEnd, ← List.reverse_append, List.takeWhile_append_dropWhile,
        List.reverse_reverse]
    rw [hend, trimStart, List.takeWhile_append_dropWhile]
  · intro c hc
    exact List.all_eq_true.1 List.all_takeWhile c (List.mem_reverse.1 hc)

theorem exists_firstWord (cs : Text) :
    ∃ before, cs = before ++ (firstWord cs ++ afterFirstWord cs) := by
  refine ⟨cs.takeWhile CodePoint.isBlank, ?_⟩
  rw [firstWord, afterFirstWord, List.takeWhile_append_dropWhile, trimStart,
    List.takeWhile_append_dropWhile]

theorem isBlank_of_mem_firstWord {cs : Text} {c : CodePoint} (h : c ∈ firstWord cs) :
    c.isBlank = false := by
  have hword := List.all_eq_true.1 List.all_takeWhile c h
  simpa using hword

theorem isBlank_head_afterFirstWord (cs : Text) :
    (afterFirstWord cs).head?.all CodePoint.isBlank = true := by
  have hhead := List.head?_dropWhile_not (!·.isBlank) (trimStart cs)
  unfold afterFirstWord
  cases hrest : ((trimStart cs).dropWhile (!·.isBlank)).head? with
  | none => rfl
  | some c =>
    rw [hrest] at hhead
    simpa using hhead

theorem trimStart_of_forall_not_blank {cs : Text} (h : ∀ c ∈ cs, c.isBlank = false) :
    trimStart cs = cs := by
  cases cs with
  | nil => rfl
  | cons c rest => rw [trimStart, List.dropWhile_cons_of_neg (by simp [h c List.mem_cons_self])]

theorem trim_of_forall_not_blank {cs : Text} (h : ∀ c ∈ cs, c.isBlank = false) :
    trim cs = cs := by
  have hreverse : cs.reverse.dropWhile CodePoint.isBlank = cs.reverse :=
    trimStart_of_forall_not_blank fun c hc => h c (List.mem_reverse.1 hc)
  rw [trim, trimStart_of_forall_not_blank h, trimEnd, hreverse, List.reverse_reverse]

theorem firstWord_of_forall_not_blank {cs : Text} (h : ∀ c ∈ cs, c.isBlank = false) :
    firstWord cs = cs := by
  rw [firstWord, trimStart_of_forall_not_blank h]
  refine List.takeWhile_eq_self_iff.2 ?_
  intro c hc
  rw [h c hc, Bool.not_false]

section FirstWord

variable {front word behind : Text} (hfront : ∀ c ∈ front, c.isBlank = true)
  (hword : ∀ c ∈ word, c.isBlank = false) (hne : word ≠ [])
  (hbehind : ∀ c ∈ behind.head?, c.isBlank = true)

include hfront hword hne in
theorem trimStart_append : trimStart (front ++ (word ++ behind)) = word ++ behind := by
  obtain ⟨c, rest, rfl⟩ := List.exists_cons_of_ne_nil hne
  have hc := hword c List.mem_cons_self
  rw [trimStart, List.dropWhile_append_of_pos hfront, List.cons_append,
    List.dropWhile_cons_of_neg (by simp [hc])]

include hfront hword hne hbehind

/-- The first word stands behind white space and goes up to the next. -/
theorem firstWord_append : firstWord (front ++ (word ++ behind)) = word := by
  have hsolid : ∀ c ∈ word, (!c.isBlank) = true := by simpa using hword
  have hnone : behind.takeWhile (!·.isBlank) = [] := by
    cases behind with
    | nil => rfl
    | cons c rest => exact List.takeWhile_cons_of_neg (by simp [hbehind c rfl])
  rw [firstWord, trimStart_append hfront hword hne, List.takeWhile_append_of_pos hsolid, hnone,
    List.append_nil]

theorem afterFirstWord_append : afterFirstWord (front ++ (word ++ behind)) = behind := by
  have hsolid : ∀ c ∈ word, (!c.isBlank) = true := by simpa using hword
  have hkept : behind.dropWhile (!·.isBlank) = behind := by
    cases behind with
    | nil => rfl
    | cons c rest => exact List.dropWhile_cons_of_neg (by simp [hbehind c rfl])
  rw [afterFirstWord, trimStart_append hfront hword hne, List.dropWhile_append_of_pos hsolid, hkept]

end FirstWord

theorem firstWord_ne_nil {cs : Text} {c : CodePoint} (h : c ∈ cs) (hc : c.isBlank = false) :
    firstWord cs ≠ [] := by
  have hhead := List.head?_dropWhile_not CodePoint.isBlank cs
  rw [firstWord, trimStart]
  cases hstart : cs.dropWhile CodePoint.isBlank with
  | nil =>
    rw [List.dropWhile_eq_nil_iff.1 hstart c h] at hc
    cases hc
  | cons d rest =>
    rw [hstart, List.head?_cons] at hhead
    rw [List.takeWhile_cons_of_pos (by simpa using hhead)]
    exact List.cons_ne_nil _ _

/-- A trimmed text that is not empty does not end in white space. -/
theorem exists_not_blank_of_trim_ne_nil {cs : Text} (h : trim cs ≠ []) :
    ∃ c ∈ trim cs, c.isBlank = false := by
  have hhead := List.head?_dropWhile_not CodePoint.isBlank (trimStart cs).reverse
  cases hend : (trimStart cs).reverse.dropWhile CodePoint.isBlank with
  | nil =>
    rw [trim, trimEnd, hend] at h
    exact absurd rfl h
  | cons c rest =>
    rw [hend, List.head?_cons] at hhead
    refine ⟨c, ?_, by simpa using hhead⟩
    rw [trim, trimEnd, hend]
    simp

end Text

end SchemaBook
