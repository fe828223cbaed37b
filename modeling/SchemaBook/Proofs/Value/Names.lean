import SchemaBook.Proofs.Outcome
import SchemaBook.Proofs.Value.Integers

/-!
When values can be read as names, words and parameters of types. What has the wrong shape counts as
absent, so a reading can only fail for an integer that has to become a text and is too long for one.
-/

namespace SchemaBook

namespace Value

/-- A name: a text that is not empty. -/
def IsName (v : Option Value) : Prop := ∃ name : Text, v = some (.text name) ∧ name ≠ []

/-- A text, a collection or an object of a kind that has items to look at. -/
def IsIterable (v : Value) : Prop :=
  match v.exposed with
  | .text _ | .list _ | .tuple _ | .map _ => True
  | .foreign object => object.hasItems = true
  | _ => False

/-- Where the value is a list or tuple of names, the integers in it can be written as names. -/
def NamesHaveText (v : Option Value) : Prop :=
  ∀ items, v.bind sequence? = some items → ∀ n, .int n ∈ items → Text.hasDecimal n = true

/-- Where the value is given, it can be written as a word. -/
def WordHasText (v : Option Value) : Prop :=
  ∀ w, v = some w → w.isGiven = true → w.plain?.isSome = true

theorem hasItems_eq_true_iff {v : Value} : v.hasItems = true ↔ v.IsIterable := by
  unfold hasItems IsIterable
  cases v.exposed <;> simp

theorem text?_eq_some_iff {v : Option Value} {name : Text} :
    text? v = some name ↔ v = some (.text name) ∧ name ≠ [] := by
  unfold text?
  split
  · next s =>
    by_cases hempty : s.isEmpty
    · rw [if_pos hempty]
      constructor
      · exact nofun
      · rintro ⟨heq, hne⟩
        cases heq
        exact absurd (List.isEmpty_iff.1 hempty) hne
    · rw [if_neg hempty]
      constructor
      · intro heq
        obtain rfl := Option.some.inj heq
        exact ⟨rfl, mt List.isEmpty_iff.2 hempty⟩
      · rintro ⟨heq, -⟩
        cases heq
        rfl
  · next hno =>
    constructor
    · exact nofun
    · rintro ⟨rfl, -⟩
      exact absurd rfl (hno name)

theorem isName_iff {v : Option Value} : IsName v ↔ ∃ name, text? v = some name := by
  simp only [IsName, text?_eq_some_iff]

theorem text?_eq_none_iff {v : Option Value} : text? v = none ↔ ¬IsName v := by
  rw [isName_iff, ← Option.isSome_iff_exists, Option.not_isSome_iff_eq_none]

theorem exists_asText_ok_iff {v : Value} : (∃ s, v.asText = .ok s) ↔ v.plain?.isSome = true := by
  unfold asText
  cases v.plain? <;> simp

theorem of_asText_eq_error {v : Value} {fault : SchemaFault} (h : v.asText = .error fault) :
    fault = .integerTooLong ∧ v.HoldsLong := by
  unfold asText at h
  split at h
  · cases h
  · next hnone =>
    cases h
    exact ⟨rfl, holdsLong_of_plain? hnone⟩

theorem isSome_plain?_int {n : Int} : (int n).plain?.isSome = Text.hasDecimal n := by
  simp only [plain?, shown?, shownInside?, isSome_intText?]

/-- Of the items of a list only integers can lack a text. -/
theorem exists_namesOfItems_ok_iff {items : List Value} :
    (∃ names, namesOfItems items = .ok names) ↔
      ∀ n, .int n ∈ items → Text.hasDecimal n = true := by
  induction items with
  | nil => exact ⟨fun _ _ => nofun, fun _ => ⟨[], rfl⟩⟩
  | cons item rest ih =>
    have hnamed : (∃ names, (do
        let first ← item.asText
        let others ← namesOfItems rest
        return first :: others) = Except.ok (ε := SchemaFault) names) ↔
        item.plain?.isSome = true ∧ ∃ names, namesOfItems rest = .ok names := by
      rw [exists_bind_ok_iff, ← exists_asText_ok_iff]
      constructor
      · rintro ⟨first, hfirst, hrest⟩
        obtain ⟨others, hothers, -⟩ := exists_bind_ok_iff.1 hrest
        exact ⟨⟨first, hfirst⟩, others, hothers⟩
      · rintro ⟨⟨first, hfirst⟩, others, hothers⟩
        exact ⟨first, hfirst, exists_bind_ok_iff.2 ⟨others, hothers, _, rfl⟩⟩
    cases item with
    | int n =>
      rw [namesOfItems, hnamed, isSome_plain?_int, ih]
      simp only [List.mem_cons, int.injEq, forall_eq_or_imp]
    | text s =>
      rw [namesOfItems, hnamed, ih]
      simp [plain?]
    | bool b =>
      rw [namesOfItems, hnamed, ih]
      simp [plain?, shown?, shownInside?]
    | _ => simp [namesOfItems, ih]

/-- The fault is that an integer in the value, if there is one, is too long for a text. -/
def IsLongIn (fault : SchemaFault) (v : Option Value) : Prop :=
  fault = .integerTooLong ∧ ∃ w, v = some w ∧ w.HoldsLong

theorem of_namesOfItems_eq_error {items : List Value} {fault : SchemaFault}
    (h : namesOfItems items = .error fault) :
    fault = .integerTooLong ∧ ∃ item ∈ items, item.HoldsLong := by
  induction items with
  | nil => cases h
  | cons item rest ih =>
    have hrest : namesOfItems rest = .error fault →
        fault = .integerTooLong ∧ ∃ other ∈ item :: rest, other.HoldsLong := by
      intro h
      obtain ⟨hfault, other, hother, hlong⟩ := ih h
      exact ⟨hfault, other, List.mem_cons_of_mem item hother, hlong⟩
    unfold namesOfItems at h
    split at h
    case h_4 => exact hrest h
    all_goals
      rcases bind_eq_error_iff.1 h with hitem | ⟨first, -, hothers⟩
      · obtain ⟨hfault, hlong⟩ := of_asText_eq_error hitem
        exact ⟨hfault, _, List.mem_cons_self, hlong⟩
      · rcases bind_eq_error_iff.1 hothers with hothers | ⟨others, -, hdone⟩
        · exact hrest hothers
        · cases hdone

theorem exists_names_ok_iff {v : Option Value} :
    (∃ found, names v = .ok found) ↔ NamesHaveText v := by
  unfold names NamesHaveText
  split
  · next items hitems =>
    rw [exists_namesOfItems_ok_iff]
    constructor
    · rintro h others hothers
      obtain rfl := Option.some.inj (hitems.symm.trans hothers)
      exact h
    · intro h
      exact h items hitems
  · next hnone =>
    constructor
    · rintro - items hitems
      rw [hnone] at hitems
      cases hitems
    · rintro -
      exact ⟨[], rfl⟩

theorem of_names_eq_error {v : Option Value} {fault : SchemaFault}
    (h : names v = .error fault) : IsLongIn fault v := by
  unfold names at h
  split at h
  · next items hitems =>
    obtain ⟨w, rfl, hw⟩ := Option.bind_eq_some_iff.1 hitems
    obtain ⟨hfault, item, hitem, hlong⟩ := of_namesOfItems_eq_error h
    exact ⟨hfault, w, rfl, hlong.of_sequence? hw hitem⟩
  · cases h

/-- The parameters of a database type can be written as names. -/
def ParamsHaveText (v : Option Value) : Prop :=
  ∀ name rest, v.bind sequence? = some (.text name :: rest) → NamesHaveText rest.head?

theorem exists_nativeType_ok_iff {v : Option Value} :
    (∃ type, nativeType v = .ok type) ↔ ParamsHaveText v := by
  unfold nativeType ParamsHaveText
  split
  · next name rest hitems =>
    rw [exists_bind_ok_iff]
    constructor
    · rintro ⟨params, hparams, -⟩ other others hothers
      obtain ⟨-, rfl⟩ := List.cons.inj (Option.some.inj (hitems.symm.trans hothers))
      exact exists_names_ok_iff.1 ⟨params, hparams⟩
    · intro h
      obtain ⟨params, hparams⟩ := exists_names_ok_iff.2 (h name rest hitems)
      exact ⟨params, hparams, _, rfl⟩
  · next hno =>
    constructor
    · rintro - name rest hitems
      exact absurd hitems (hno name rest)
    · rintro -
      exact ⟨none, rfl⟩

theorem of_nativeType_eq_error {v : Option Value} {fault : SchemaFault}
    (h : nativeType v = .error fault) : IsLongIn fault v := by
  unfold nativeType at h
  split at h
  · next name rest hitems =>
    obtain ⟨w, rfl, hw⟩ := Option.bind_eq_some_iff.1 hitems
    rcases bind_eq_error_iff.1 h with hparams | ⟨params, -, hdone⟩
    · obtain ⟨hfault, param, hparam, hlong⟩ := of_names_eq_error hparams
      have hmem := List.mem_cons_of_mem (.text name) (List.mem_of_mem_head? hparam)
      exact ⟨hfault, w, rfl, hlong.of_sequence? hw hmem⟩
    · cases hdone
  · cases h

theorem exists_wordOr_ok_iff {default : Text} {v : Option Value} :
    (∃ word, wordOr default v = .ok word) ↔ WordHasText v := by
  unfold wordOr WordHasText
  split
  · next w =>
    by_cases hgiven : w.isGiven = true
    · rw [if_pos hgiven, exists_asText_ok_iff]
      constructor
      · rintro h other heq -
        rwa [← Option.some.inj heq]
      · intro h
        exact h w rfl hgiven
    · rw [if_neg hgiven]
      constructor
      · rintro - other heq hother
        rw [← Option.some.inj heq] at hother
        exact absurd hother hgiven
      · rintro -
        exact ⟨default, rfl⟩
  · exact ⟨fun _ _ => nofun, fun _ => ⟨default, rfl⟩⟩

theorem of_wordOr_eq_error {default : Text} {v : Option Value} {fault : SchemaFault}
    (h : wordOr default v = .error fault) : IsLongIn fault v := by
  unfold wordOr at h
  split at h
  · next w =>
    split at h
    · obtain ⟨hfault, hlong⟩ := of_asText_eq_error h
      exact ⟨hfault, w, rfl, hlong⟩
    · cases h
  · cases h

end Value

end SchemaBook
