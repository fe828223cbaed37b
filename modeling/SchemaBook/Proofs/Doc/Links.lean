import SchemaBook.Proofs.Doc.Edges

/-!
Links in running text. A link is written as a structure of its parts and a text with links as plain
parts with links between them; neither is taken from the function that resolves links. Main
statement: each link of such a text becomes Markdown and all else is copied, and a text in which no
link starts stays as it is.
-/

namespace SchemaBook

namespace Text

/-- The first piece between cut elements is what stands in front of the first one. -/
theorem headD_splitWhere {α : Type} (test : α → Bool) (xs : List α) :
    (splitWhere test xs).headD [] = xs.takeWhile (!test ·) := by
  induction xs with
  | nil => rfl
  | cons a rest ih =>
    cases ha : test a with
    | true => simp [splitWhere, ha]
    | false =>
      obtain ⟨piece, pieces, hrest, hcons⟩ := exists_splitWhere_cons ha rest
      rw [hrest, List.headD_cons] at ih
      rw [hcons, List.headD_cons, List.takeWhile_cons_of_pos (by simp [ha]), ih]

end Text

namespace Link

open Text

/-- The label of a link: white space, and a text with none at its ends. -/
structure Label where
  gap : Text
  text : Text
  gap_ne_nil : gap ≠ []
  gap_blank : ∀ c ∈ gap, c.isBlank = true
  ne_nil : text ≠ []
  closed : CodePoint.char '\x7d' ∉ text
  start : ∀ c ∈ text.head?, c.isBlank = false
  finish : ∀ c ∈ text.getLast?, c.isBlank = false

/-- A link as it is written: its word, white space, a target, and a label or none. White space may
stand in front of the closing brace. -/
structure Marker where
  gap : Text
  target : Text
  label : Option Label
  space : Text
  gap_ne_nil : gap ≠ []
  gap_blank : ∀ c ∈ gap, c.isBlank = true
  target_ne_nil : target ≠ []
  target_solid : ∀ c ∈ target, c.isBlank = false
  target_closed : CodePoint.char '\x7d' ∉ target
  space_blank : ∀ c ∈ space, c.isBlank = true

namespace Marker

/-- What stands behind the target for the label. -/
def labelPart (m : Marker) : Text :=
  match m.label with
  | some label => label.gap ++ label.text
  | none => []

def text (m : Marker) : Text :=
  "\x7b" ++ (opening ++ (m.gap ++ (m.target ++ m.labelPart ++ m.space))) ++ "\x7d"

/-- The text that is shown: the label, or the target where there is none. -/
def shown (m : Marker) : Text :=
  match m.label with
  | some label => label.text
  | none => m.target

/-- The link in Markdown. It leads to the part of the target in front of its first dot. -/
def markdown (m : Marker) : Text :=
  "[" ++ m.shown ++ "](#" ++ (splitWhere (· == .char '.') m.target).headD [] ++ ")"

end Marker

/-- A text of plain parts with links between them. -/
structure LinkedText where
  start : Text
  links : List (Marker × Text)
  start_plain : CodePoint.char '\x7b' ∉ start
  plain : ∀ link ∈ links, CodePoint.char '\x7b' ∉ link.2

namespace LinkedText

def text (t : LinkedText) : Text := t.start ++ t.links.flatMap fun link => link.1.text ++ link.2

/-- The text with every link in Markdown. -/
def markdown (t : LinkedText) : Text :=
  t.start ++ t.links.flatMap fun link => link.1.markdown ++ link.2

end LinkedText

/-- Whether the start of a link stands somewhere in a text. -/
def HasOpening (text : Text) : Prop :=
  ∃ before gap after, text = before ++ .char '\x7b' :: (opening ++ gap :: after) ∧
    gap.isBlank = true

/-- A text that is longer than its part in front of the first closing brace has such a brace. -/
theorem exists_closing {text : Text}
    (h : (text.takeWhile fun (c : CodePoint) => c != '\x7d').length < text.length) :
    ∃ rest, text = text.takeWhile (fun (c : CodePoint) => c != '\x7d') ++ .char '\x7d' :: rest := by
  have hsplit : text.takeWhile (fun (c : CodePoint) => c != '\x7d') ++
      text.dropWhile (fun (c : CodePoint) => c != '\x7d') = text := List.takeWhile_append_dropWhile
  cases hrest : text.dropWhile fun (c : CodePoint) => c != '\x7d' with
  | nil =>
    rw [hrest, List.append_nil] at hsplit
    exact absurd h (by rw [hsplit]; exact Nat.lt_irrefl _)
  | cons c rest =>
    have hbrace : (c != CodePoint.char '\x7d') = false :=
      eq_false_of_head_dropWhile c (by rw [hrest]; rfl)
    obtain rfl : c = .char '\x7d' := by simpa using hbrace
    exact ⟨rest, by rw [← hrest, hsplit]⟩

/-- A link is read up to the first closing brace behind its start. -/
theorem read?_eq_some_iff {cs body : Text} {used : Nat} :
    read? cs = some (body, used) ↔ ∃ gap rest,
      cs = opening ++ gap :: (body ++ .char '\x7d' :: rest) ∧ gap.isBlank = true ∧
        CodePoint.char '\x7d' ∉ body ∧ used = opening.length + 1 + body.length + 1 := by
  constructor
  · intro h
    unfold read? at h
    split at h
    · next gap text hopening =>
      dsimp only at h
      split at h
      · next hform =>
        rw [Bool.and_eq_true, decide_eq_true_eq] at hform
        obtain ⟨rest, htext⟩ := exists_closing hform.2
        obtain ⟨rfl, rfl⟩ := Prod.mk.inj (Option.some.inj h)
        refine ⟨gap, rest, ?_, hform.1, ?_, rfl⟩
        · rw [← htext]
          exact append_of_isPrefixOf? hopening
        · intro hmem
          have hnot := List.all_eq_true.1 List.all_takeWhile _ hmem
          simp at hnot
      · cases h
    · cases h
  · rintro ⟨gap, rest, rfl, hgap, hbody, rfl⟩
    have hbefore : (body ++ CodePoint.char '\x7d' :: rest).takeWhile
        (fun (c : CodePoint) => c != '\x7d') = body := by
      rw [List.takeWhile_append_of_pos, List.takeWhile_cons_of_neg, List.append_nil]
      · simp
      · intro c hc
        rw [bne_iff_ne]
        rintro rfl
        exact hbody hc
    rw [read?, isPrefixOf?_append]
    dsimp only
    rw [hbefore, hgap]
    simp

theorem resolve_cons_of_ne {c : CodePoint} (h : c ≠ .char '\x7b') (rest : Text) :
    resolve (c :: rest) = c :: resolve rest := by
  rw [resolve, if_neg h]

/-- Text without opening braces is copied. -/
theorem resolve_append_of_notMem {plain : Text} (h : CodePoint.char '\x7b' ∉ plain) (rest : Text) :
    resolve (plain ++ rest) = plain ++ resolve rest := by
  induction plain with
  | nil => rfl
  | cons c plain ih =>
    rw [List.mem_cons, not_or] at h
    rw [List.cons_append, resolve_cons_of_ne (Ne.symm h.1), ih h.2, List.cons_append]

/-- A link is replaced as a whole, and what stands behind it is resolved apart from it. -/
theorem resolve_link {gap : CodePoint} (hgap : gap.isBlank = true) {body : Text}
    (hbody : CodePoint.char '\x7d' ∉ body) (rest : Text) :
    resolve (.char '\x7b' :: (opening ++ gap :: (body ++ .char '\x7d' :: rest))) =
      (inMarkdown? body).getD (.char '\x7b' :: (opening ++ gap :: (body ++ [.char '\x7d']))) ++
        resolve rest := by
  have hread := read?_eq_some_iff.2 ⟨gap, rest, rfl, hgap, hbody, rfl⟩
  have hlink : opening ++ gap :: (body ++ CodePoint.char '\x7d' :: rest) =
      (opening ++ gap :: (body ++ [CodePoint.char '\x7d'])) ++ rest := by simp
  have hlength : opening.length + 1 + body.length + 1 =
      (opening ++ gap :: (body ++ [CodePoint.char '\x7d'])).length := by simp; omega
  rw [resolve, if_pos rfl, hread]
  dsimp only
  rw [hlength, hlink, List.take_left, List.drop_left]

theorem markdown_eq (target label : Text) :
    Link.markdown target label =
      "[" ++ label ++ "](#" ++ (splitWhere (· == .char '.') target).headD [] ++ ")" := by
  rw [headD_splitWhere]
  rfl

namespace Marker

variable (m : Marker)

/-- Target and label, without the white space around them. -/
def core : Text := m.target ++ m.labelPart

theorem labelPart_closed : CodePoint.char '\x7d' ∉ m.labelPart := by
  unfold labelPart
  split
  · next label _ =>
    rw [List.mem_append, not_or]
    exact ⟨fun h => absurd (label.gap_blank _ h) (by decide), label.closed⟩
  · exact List.not_mem_nil

theorem isBlank_of_head_labelPart : ∀ c ∈ m.labelPart.head?, c.isBlank = true := by
  intro c hc
  unfold labelPart at hc
  split at hc
  · next label _ =>
    rw [List.head?_append_of_ne_nil _ label.gap_ne_nil] at hc
    exact label.gap_blank c (List.mem_of_mem_head? hc)
  · cases hc

theorem not_blank_of_head_core : ∀ c ∈ m.core.head?, c.isBlank = false := by
  intro c hc
  rw [core, List.head?_append_of_ne_nil _ m.target_ne_nil] at hc
  exact m.target_solid c (List.mem_of_mem_head? hc)

theorem not_blank_of_getLast_core : ∀ c ∈ m.core.getLast?, c.isBlank = false := by
  intro c hc
  unfold core labelPart at hc
  split at hc
  · next label _ =>
    rw [← List.append_assoc, List.getLast?_append_of_ne_nil _ label.ne_nil] at hc
    exact label.finish c hc
  · rw [List.append_nil] at hc
    exact m.target_solid c (List.mem_of_getLast? hc)

theorem firstWord_core : firstWord m.core = m.target :=
  @firstWord_append [] m.target m.labelPart nofun m.target_solid m.target_ne_nil
    m.isBlank_of_head_labelPart

theorem afterFirstWord_core : afterFirstWord m.core = m.labelPart :=
  @afterFirstWord_append [] m.target m.labelPart nofun m.target_solid m.target_ne_nil
    m.isBlank_of_head_labelPart

theorem shown_eq : m.shown = if (trim m.labelPart).isEmpty then m.target else trim m.labelPart := by
  unfold shown labelPart
  split
  · next label _ =>
    have htrim : trim (label.gap ++ label.text) = label.text :=
      trim_eq_iff.2 ⟨⟨label.gap, [], by rw [List.append_nil], label.gap_blank, nofun⟩, label.start,
        label.finish⟩
    rw [htrim, if_neg (by simpa using label.ne_nil)]
  · rfl

theorem inMarkdown?_eq {front : Text} (hfront : ∀ c ∈ front, c.isBlank = true) :
    inMarkdown? (front ++ (m.core ++ m.space)) = some m.markdown := by
  have htrim : trim (front ++ (m.core ++ m.space)) = m.core :=
    trim_eq_iff.2 ⟨⟨front, m.space, rfl, hfront, m.space_blank⟩, m.not_blank_of_head_core,
      m.not_blank_of_getLast_core⟩
  have hfull : m.core.isEmpty = false := by
    simp [core, m.target_ne_nil]
  rw [inMarkdown?, htrim]
  dsimp only
  rw [hfull, firstWord_core, afterFirstWord_core, markdown_eq, markdown, shown_eq]
  rfl

/-- A link is written in Markdown, and what stands behind it is resolved apart from it. -/
theorem resolve_text_append (rest : Text) :
    resolve (m.text ++ rest) = m.markdown ++ resolve rest := by
  obtain ⟨gap, front, hgap⟩ := List.exists_cons_of_ne_nil m.gap_ne_nil
  have hblank := m.gap_blank
  rw [hgap, List.forall_mem_cons] at hblank
  have hclosed : CodePoint.char '\x7d' ∉ front ++ (m.core ++ m.space) := by
    have hspace : ∀ piece : Text, (∀ c ∈ piece, c.isBlank = true) → CodePoint.char '\x7d' ∉ piece :=
      fun piece hpiece hmem => absurd (hpiece _ hmem) (by decide)
    simp only [core, List.mem_append, not_or]
    exact ⟨hspace _ hblank.2, ⟨m.target_closed, m.labelPart_closed⟩, hspace _ m.space_blank⟩
  have htext : m.text ++ rest = .char '\x7b' :: (opening ++ gap ::
      (front ++ (m.core ++ m.space) ++ .char '\x7d' :: rest)) := by
    simp only [text, hgap, core, List.append_assoc, List.cons_append]
    rfl
  rw [htext, resolve_link hblank.1 hclosed, m.inMarkdown?_eq hblank.2, Option.getD_some]

end Marker

namespace LinkedText

theorem resolve_links {links : List (Marker × Text)}
    (h : ∀ link ∈ links, CodePoint.char '\x7b' ∉ link.2) :
    resolve (links.flatMap fun link => link.1.text ++ link.2) =
      links.flatMap fun link => link.1.markdown ++ link.2 := by
  induction links with
  | nil => rw [List.flatMap_nil, List.flatMap_nil, resolve]
  | cons link rest ih =>
    rw [List.forall_mem_cons] at h
    rw [List.flatMap_cons, List.flatMap_cons, List.append_assoc, Marker.resolve_text_append,
      resolve_append_of_notMem h.1, ih h.2, List.append_assoc]

theorem resolve_text (t : LinkedText) : resolve t.text = t.markdown := by
  rw [text, resolve_append_of_notMem t.start_plain, resolve_links t.plain, markdown]

end LinkedText

/-- Where no link starts nothing is replaced. -/
theorem resolve_of_not_hasOpening {text : Text} (h : ¬HasOpening text) : resolve text = text := by
  fun_induction resolve text with
  | case1 => rfl
  | case2 c rest body used hread ih =>
    split at hread
    · next hc =>
      obtain ⟨gap, more, hrest, hgap, -⟩ := read?_eq_some_iff.1 hread
      subst hc hrest
      exact absurd ⟨[], gap, _, rfl, hgap⟩ h
    · cases hread
  | case3 c rest hread ih =>
    rw [ih]
    rintro ⟨before, gap, after, rfl, hgap⟩
    exact h ⟨c :: before, gap, after, rfl, hgap⟩

/-- What a link shows and leads to stands in its body. -/
theorem mem_markdown {body target label : Text} (htarget : target ⊆ body) (hlabel : label ⊆ body)
    {c : CodePoint} (hc : c ∈ Link.markdown target label) :
    c ∈ body ∨ c ∈ (("[](#)" : String) : Text) := by
  have hanchor : anchor target ⊆ body := List.Subset.trans (List.takeWhile_prefix _).subset htarget
  have hfirst : (("[" : String) : Text) ⊆ (("[](#)" : String) : Text) := by decide
  have hmiddle : (("](#" : String) : Text) ⊆ (("[](#)" : String) : Text) := by decide
  have hlast : ((")" : String) : Text) ⊆ (("[](#)" : String) : Text) := by decide
  simp only [Link.markdown, List.mem_append] at hc
  rcases hc with (((hc | hc) | hc) | hc) | hc
  · exact .inr (hfirst hc)
  · exact .inl (hlabel hc)
  · exact .inr (hmiddle hc)
  · exact .inl (hanchor hc)
  · exact .inr (hlast hc)

/-- What is written for the body of a link shows a text of the body and leads to one. -/
theorem exists_of_inMarkdown? {body written : Text} (h : inMarkdown? body = some written) :
    ∃ target label, target ⊆ body ∧ label ⊆ body ∧ written = Link.markdown target label := by
  obtain ⟨before, hwords⟩ := exists_firstWord (trim body)
  have hfirst : firstWord (trim body) ⊆ trim body := by
    conv_rhs => rw [hwords]
    exact List.subset_append_of_subset_right _ (List.subset_append_left _ _)
  have hbehind : afterFirstWord (trim body) ⊆ trim body := by
    conv_rhs => rw [hwords]
    exact List.subset_append_of_subset_right _ (List.subset_append_right _ _)
  have htarget := List.Subset.trans hfirst (trim_subset body)
  have hlabel := List.Subset.trans (trim_subset _) (List.Subset.trans hbehind (trim_subset body))
  unfold inMarkdown? at h
  dsimp only at h
  split at h
  · cases h
  · refine ⟨_, _, htarget, ?_, (Option.some.inj h).symm⟩
    split
    · exact htarget
    · exact hlabel

/-- Resolved text has no characters but those that it had and those of links in Markdown. -/
theorem mem_resolve {text : Text} {c : CodePoint} (h : c ∈ resolve text) :
    c ∈ text ∨ c ∈ (("[](#)" : String) : Text) := by
  fun_induction resolve text with
  | case1 => exact .inl h
  | case2 d rest body used hread ih =>
    split at hread
    · obtain ⟨gap, more, hrest, -⟩ := read?_eq_some_iff.1 hread
      rcases List.mem_append.1 h with hlink | hbehind
      · cases hwritten : inMarkdown? body with
        | none =>
          rw [hwritten] at hlink
          refine .inl (List.cons_subset_cons d (List.take_subset used rest) hlink)
        | some written =>
          obtain ⟨target, label, htarget, hlabel, rfl⟩ := exists_of_inMarkdown? hwritten
          rw [hwritten, Option.getD_some] at hlink
          refine (mem_markdown htarget hlabel hlink).imp_left fun hbody => ?_
          rw [hrest]
          simp [hbody]
      · exact (ih hbehind).imp_left fun hmem => List.mem_cons_of_mem d (List.mem_of_mem_drop hmem)
    · cases hread
  | case3 d rest hread ih =>
    rcases List.mem_cons.1 h with rfl | hmem
    · exact .inl List.mem_cons_self
    · exact (ih hmem).imp_left (List.mem_cons_of_mem d)

/-- The first character that is no white space stays, but for the brace of a link, in place of which
a bracket stands. -/
theorem find?_resolve (text : Text) :
    (resolve text).find? (!·.isBlank) = text.find? (!·.isBlank) ∨
      text.find? (!·.isBlank) = some (.char '\x7b') ∧
        (resolve text).find? (!·.isBlank) = some (.char '[') := by
  fun_induction resolve text with
  | case1 => exact .inl rfl
  | case2 c rest body used hread ih =>
    split at hread
    · next hc =>
      subst hc
      cases hwritten : inMarkdown? body with
      | none => exact .inl rfl
      | some written =>
        obtain ⟨target, label, -, -, rfl⟩ := exists_of_inMarkdown? hwritten
        exact .inr ⟨rfl, rfl⟩
    · cases hread
  | case3 c rest hread ih =>
    cases hc : c.isBlank with
    | true => simpa [List.find?_cons, hc] using ih
    | false => simp [hc]

theorem hasOpening_iff {text : Text} :
    HasOpening text ↔
      (allAfter (.char '\x7b' :: opening) text).any (·.head?.any (·.isBlank)) = true := by
  simp only [List.any_eq_true, mem_allAfter_iff, HasOpening]
  constructor
  · rintro ⟨before, gap, after, htext, hgap⟩
    exact ⟨gap :: after, ⟨before, htext⟩, hgap⟩
  · rintro ⟨rest, ⟨before, htext⟩, hgap⟩
    cases rest with
    | nil => cases hgap
    | cons gap after => exact ⟨before, gap, after, htext, hgap⟩

instance (text : Text) : Decidable (HasOpening text) := decidable_of_iff' _ hasOpening_iff

/-- In a text of plain parts and links every link becomes Markdown, with its target where it has no
label, and the plain parts are copied. A text in which the word of a link never stands behind a
brace and in front of white space is not changed. -/
theorem resolve_replaces_links :
    (∀ t : LinkedText, resolve t.text = t.markdown) ∧
      ∀ text, ¬HasOpening text → resolve text = text :=
  ⟨LinkedText.resolve_text, fun _ => resolve_of_not_hasOpening⟩

/-- A link to a member with a label of two words, over the end of a line. -/
def memberLink : Marker where
  gap := "\n "
  target := "User.email.part"
  label := some
    { gap := "  "
      text := "the \x7baddress"
      gap_ne_nil := by decide
      gap_blank := by decide
      ne_nil := by decide
      closed := by decide
      start := by decide
      finish := by decide }
  space := " "
  gap_ne_nil := by decide
  gap_blank := by decide
  target_ne_nil := by decide
  target_solid := by decide
  target_closed := by decide
  space_blank := by decide

/-- A link to a heading, without a label. -/
def headingLink : Marker where
  gap := " "
  target := "Post"
  label := none
  space := []
  gap_ne_nil := by decide
  gap_blank := by decide
  target_ne_nil := by decide
  target_solid := by decide
  target_closed := by decide
  space_blank := nofun

def twoLinks : LinkedText where
  start := "By "
  links := [(memberLink, ((", see " : String) : Text)), (headingLink, (("\x7d." : String) : Text))]
  start_plain := by decide
  plain := by decide

/-- Two links are replaced, and a word that only starts like that of a link is left alone. -/
theorem twoLinks_resolved :
    twoLinks.text =
        "By \x7b@link\n User.email.part  the \x7baddress \x7d, see \x7b@link Post\x7d\x7d." ∧
      resolve twoLinks.text = "By [the \x7baddress](#User), see [Post](#Post)\x7d." ∧
      ¬HasOpening "\x7b@linked Post\x7d" ∧
      resolve "\x7b@linked Post\x7d" = "\x7b@linked Post\x7d" := by
  have hplain : ¬HasOpening "\x7b@linked Post\x7d" := by decide
  refine ⟨by decide, ?_, hplain, resolve_replaces_links.2 _ hplain⟩
  rw [resolve_replaces_links.1]
  decide

end Link

end SchemaBook
