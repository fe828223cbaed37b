import SchemaBook.Schema.Reading

/-!
The integers that a value holds. What a knot holds is found in it once it is untied, and what is
found under a key or in a list was in the whole. Main statement: only an integer that is too long
for a decimal notation keeps a value from being shown, however deep it stands.
-/

namespace SchemaBook.Value

/-- Somewhere in the value, be it in a key, stands an integer that is too long for a decimal
notation, or an object of another kind that such an integer keeps from being written. -/
inductive HoldsLong : Value → Prop where
  | int {n : Int} (h : Text.hasDecimal n = false) : HoldsLong (.int n)
  | item {items : List Value} {item : Value} (hmem : item ∈ items) (h : HoldsLong item) :
      HoldsLong (.list items)
  | member {items : List Value} {item : Value} (hmem : item ∈ items) (h : HoldsLong item) :
      HoldsLong (.tuple items)
  | key {entries : Entries} {entry : Value × Value} (hmem : entry ∈ entries)
      (h : HoldsLong entry.1) : HoldsLong (.map entries)
  | value {entries : Entries} {entry : Value × Value} (hmem : entry ∈ entries)
      (h : HoldsLong entry.2) : HoldsLong (.map entries)
  | content {label : Nat} {content : Value} (h : HoldsLong content) :
      HoldsLong (.knot label content)
  | shown {object : ForeignObject} (h : object.shown? = none) : HoldsLong (.foreign object)
  | plain {object : ForeignObject} (h : object.plain? = none) : HoldsLong (.foreign object)

@[simp]
theorem not_holdsLong_null : ¬null.HoldsLong := nofun

@[simp]
theorem not_holdsLong_bool {b : Bool} : ¬(bool b).HoldsLong := nofun

@[simp]
theorem not_holdsLong_text {s : Text} : ¬(text s).HoldsLong := nofun

@[simp]
theorem holdsLong_int_iff {n : Int} : (int n).HoldsLong ↔ Text.hasDecimal n = false :=
  ⟨fun | .int h => h, .int⟩

@[simp]
theorem holdsLong_list_iff {items : List Value} :
    (list items).HoldsLong ↔ ∃ item ∈ items, item.HoldsLong :=
  ⟨fun | .item hmem h => ⟨_, hmem, h⟩, fun ⟨_, hmem, h⟩ => .item hmem h⟩

@[simp]
theorem holdsLong_tuple_iff {items : List Value} :
    (tuple items).HoldsLong ↔ ∃ item ∈ items, item.HoldsLong :=
  ⟨fun | .member hmem h => ⟨_, hmem, h⟩, fun ⟨_, hmem, h⟩ => .member hmem h⟩

@[simp]
theorem holdsLong_map_iff {entries : Entries} :
    (map entries).HoldsLong ↔ ∃ entry ∈ entries, entry.1.HoldsLong ∨ entry.2.HoldsLong := by
  constructor
  · intro h
    cases h with
    | key hmem h => exact ⟨_, hmem, .inl h⟩
    | value hmem h => exact ⟨_, hmem, .inr h⟩
  · rintro ⟨entry, hmem, h | h⟩
    · exact .key hmem h
    · exact .value hmem h

section Tied

variable {label : Nat} {whole : Value}

mutual

/-- Untying a knot adds nothing to a value but what stands for the label. -/
theorem holdsLong_of_tied :
    ∀ {v : Value}, (tied label whole v).HoldsLong → v.HoldsLong ∨ whole.HoldsLong
  | .list items, h => by
    rw [tied, holdsLong_list_iff] at h
    obtain ⟨item, hmem, h⟩ := h
    rcases holdsLong_of_tiedItems hmem h with ⟨given, hgiven, h⟩ | h
    · exact .inl (.item hgiven h)
    · exact .inr h
  | .tuple items, h => by
    rw [tied, holdsLong_tuple_iff] at h
    obtain ⟨item, hmem, h⟩ := h
    rcases holdsLong_of_tiedItems hmem h with ⟨given, hgiven, h⟩ | h
    · exact .inl (.member hgiven h)
    · exact .inr h
  | .map entries, h => by
    rw [tied, holdsLong_map_iff] at h
    obtain ⟨entry, hmem, h⟩ := h
    obtain ⟨given, hgiven, hkey, hvalue⟩ := holdsLong_of_tiedEntries hmem
    rcases h with h | h
    · exact .inl (.key hgiven (hkey ▸ h))
    · exact (hvalue h).imp_left (.value hgiven)
  | .knot inner content, h => by
    rw [tied] at h
    split at h
    · exact .inl h
    · cases h with
      | content h => exact (holdsLong_of_tied h).imp_left .content
  | .loop inner, h => by
    rw [tied] at h
    split at h
    · exact .inr h
    · exact .inl h
  | .null, h => .inl h
  | .bool _, h => .inl h
  | .int _, h => .inl h
  | .float _, h => .inl h
  | .text _, h => .inl h
  | .date .., h => .inl h
  | .foreign _, h => .inl h

theorem holdsLong_of_tiedItems : ∀ {items : List Value} {item : Value},
    item ∈ tiedItems label whole items → item.HoldsLong →
      (∃ given ∈ items, given.HoldsLong) ∨ whole.HoldsLong
  | [], _, hmem, _ => nomatch hmem
  | first :: rest, item, hmem, h => by
    rw [tiedItems] at hmem
    rcases List.mem_cons.1 hmem with rfl | hmem
    · exact (holdsLong_of_tied h).imp_left fun h => ⟨first, List.mem_cons_self, h⟩
    · refine (holdsLong_of_tiedItems hmem h).imp_left ?_
      rintro ⟨given, hgiven, h⟩
      exact ⟨given, List.mem_cons_of_mem first hgiven, h⟩

theorem holdsLong_of_tiedEntries : ∀ {entries : Entries} {entry : Value × Value},
    entry ∈ tiedEntries label whole entries → ∃ given ∈ entries, given.1 = entry.1 ∧
      (entry.2.HoldsLong → given.2.HoldsLong ∨ whole.HoldsLong)
  | [], _, hmem => nomatch hmem
  | (key, value) :: rest, entry, hmem => by
    rw [tiedEntries] at hmem
    rcases List.mem_cons.1 hmem with rfl | hmem
    · exact ⟨(key, value), List.mem_cons_self, rfl, holdsLong_of_tied⟩
    · obtain ⟨given, hgiven, hentry⟩ := holdsLong_of_tiedEntries hmem
      exact ⟨given, List.mem_cons_of_mem _ hgiven, hentry⟩

end

end Tied

theorem holdsLong_of_exposed {v : Value} (h : v.exposed.HoldsLong) : v.HoldsLong := by
  cases v with
  | knot label content =>
    rcases holdsLong_of_tied h with h | h
    · exact .content h
    · exact h
  | _ => exact h

namespace HoldsLong

variable {v part : Value}

theorem of_sequence? {items : List Value} (h : part.HoldsLong) (hitems : v.sequence? = some items)
    (hmem : part ∈ items) : v.HoldsLong := by
  unfold sequence? at hitems
  split at hitems
  case h_1 exposed heq =>
    apply holdsLong_of_exposed
    rw [heq, Option.some.inj hitems]
    exact .item hmem h
  case h_2 exposed heq =>
    apply holdsLong_of_exposed
    rw [heq, Option.some.inj hitems]
    exact .member hmem h
  case h_3 => cases hitems

theorem of_items? {items : List Value} (h : part.HoldsLong) (hitems : v.items? = some items)
    (hmem : part ∈ items) : v.HoldsLong :=
  h.of_sequence? (sequence?_of_items? hitems) hmem

theorem of_entries? {entries : Entries} {entry : Value × Value} (h : entry.2.HoldsLong)
    (hentries : v.entries? = some entries) (hmem : entry ∈ entries) : v.HoldsLong := by
  unfold entries? at hentries
  split at hentries
  · next exposed heq =>
    apply holdsLong_of_exposed
    rw [heq, Option.some.inj hentries]
    exact .value hmem h
  · cases hentries

theorem of_get? {key : Text} (h : part.HoldsLong) (hkey : v.get? key = some part) :
    v.HoldsLong := by
  obtain ⟨entries, hentries, hget⟩ := Option.bind_eq_some_iff.1 hkey
  obtain ⟨entry, hentry, rfl⟩ := Option.map_eq_some_iff.1 hget
  exact h.of_entries? hentries (List.mem_of_find?_eq_some hentry)

theorem of_given {key : Text} (h : part.HoldsLong) (hkey : v.given key = some part) :
    v.HoldsLong := by
  obtain ⟨found, hfound, hgiven⟩ := Option.bind_eq_some_iff.1 hkey
  unfold given? at hgiven
  split at hgiven
  · rw [← Option.some.inj hgiven] at h
    exact h.of_get? hfound
  · cases hgiven

end HoldsLong

theorem isSome_intText? {n : Int} : (intText? n).isSome = Text.hasDecimal n := by
  unfold intText?
  split
  · next h => rw [h, Option.isSome_some]
  · next h =>
    rw [Bool.not_eq_true] at h
    rw [h, Option.isSome_none]

mutual

/-- A value that cannot be shown, whatever collections it stands in, holds an integer that is too
long. -/
theorem holdsLong_of_shownInside? {labels : List (Nat × Text)} :
    ∀ {v : Value}, shownInside? labels v = none → v.HoldsLong
  | .int _ => by
    intro h
    rw [shownInside?] at h
    exact .int (by rw [← isSome_intText?, h, Option.isSome_none])
  | .list items => by
    intro h
    rw [shownInside?, Option.map_eq_none_iff] at h
    obtain ⟨item, hitem, h⟩ := holdsLong_of_shownItems? h
    exact .item hitem h
  | .tuple items => by
    intro h
    rw [shownInside?, Option.map_eq_none_iff] at h
    obtain ⟨item, hitem, h⟩ := holdsLong_of_shownItems? h
    exact .member hitem h
  | .map entries => by
    intro h
    rw [shownInside?, Option.map_eq_none_iff] at h
    exact holdsLong_map_iff.2 (holdsLong_of_shownEntries? h)
  | .knot label content => by
    intro h
    rw [shownInside?] at h
    split at h
    · cases h
    · exact .content (holdsLong_of_shownInside? h)
  | .null => nofun
  | .bool _ => nofun
  | .float _ => nofun
  | .text _ => nofun
  | .date .. => nofun
  | .loop _ => nofun
  | .foreign _ => by
    intro h
    rw [shownInside?] at h
    exact .shown h

theorem holdsLong_of_shownItems? {labels : List (Nat × Text)} :
    ∀ {items : List Value}, shownItems? labels items = none → ∃ item ∈ items, item.HoldsLong
  | [], h => nomatch h
  | item :: rest, h => by
    cases hitem : shownInside? labels item with
    | none => exact ⟨item, List.mem_cons_self, holdsLong_of_shownInside? hitem⟩
    | some first =>
      cases hrest : shownItems? labels rest with
      | none =>
        obtain ⟨other, hother, hlong⟩ := holdsLong_of_shownItems? hrest
        exact ⟨other, List.mem_cons_of_mem item hother, hlong⟩
      | some others => simp [shownItems?, hitem, hrest] at h

theorem holdsLong_of_shownEntries? {labels : List (Nat × Text)} :
    ∀ {entries : Entries}, shownEntries? labels entries = none →
      ∃ entry ∈ entries, entry.1.HoldsLong ∨ entry.2.HoldsLong
  | [], h => nomatch h
  | (key, value) :: rest, h => by
    cases hkey : shownInside? labels key with
    | none => exact ⟨_, List.mem_cons_self, .inl (holdsLong_of_shownInside? hkey)⟩
    | some left =>
      cases hvalue : shownInside? labels value with
      | none => exact ⟨_, List.mem_cons_self, .inr (holdsLong_of_shownInside? hvalue)⟩
      | some right =>
        cases hrest : shownEntries? labels rest with
        | none =>
          obtain ⟨other, hother, hlong⟩ := holdsLong_of_shownEntries? hrest
          exact ⟨other, List.mem_cons_of_mem _ hother, hlong⟩
        | some others => simp [shownEntries?, hkey, hvalue, hrest] at h

end

/-- A value that has no text holds an integer that is too long. -/
theorem holdsLong_of_plain? {v : Value} (h : v.plain? = none) : v.HoldsLong := by
  unfold plain? at h
  split at h
  · cases h
  · cases h
  · exact .plain h
  · exact holdsLong_of_shownInside? h

end SchemaBook.Value
