import Mathlib.Tactic
import SchemaBook.Schema.JoinTable

/-!
Names that are not used yet. The candidates for a base are pairwise distinct, because numbers are
written in distinct ways, so one more candidates than there are used names hold a free one. The
search is given as many steps as there are used names; as a loop that goes on while the candidate is
used it needs no bound, and takes no more turns than that. Main statement: for the fields of a model
the loop ends, at the base or else at the least number that gives a free name.
-/

namespace SchemaBook

/-- A number reads back from its digits, so the digits tell numbers apart. -/
theorem toString_nat_injective {m n : Nat} (h : toString m = toString n) : m = n := by
  have hdigits : Nat.toDigits 10 m = Nat.toDigits 10 n := by
    rw [← Nat.toList_repr, ← Nat.toList_repr]
    exact congrArg String.toList h
  rw [← Nat.ofDigitChars_ten_toDigits (n := m), hdigits, Nat.ofDigitChars_ten_toDigits]

private theorem append_suffix_ne (base suffix : Text) : base ≠ base ++ "_" ++ suffix := by
  intro h
  have hlength := congrArg List.length h
  have hmark : (("_" : String) : Text).length = 1 := rfl
  rw [List.length_append, List.length_append, hmark] at hlength
  omega

theorem nameCandidate_injective (base : Text) : Function.Injective (nameCandidate base) := by
  intro m n h
  cases m with
  | zero =>
    cases n with
    | zero => rfl
    | succ n => exact absurd h (append_suffix_ne base _)
  | succ m =>
    cases n with
    | zero => exact absurd h.symm (append_suffix_ne base _)
    | succ n =>
      have hdigits : toString (m + 2) = toString (n + 2) :=
        Text.ofString_injective (List.append_cancel_left h)
      have hnumber : m + 2 = n + 2 := toString_nat_injective hdigits
      omega

/-- The search ends at a candidate before which all are used. If it ends before its steps are spent,
that candidate is free. -/
theorem searchName_eq_candidate (base : Text) (used : List Text) (steps n : Nat) :
    ∃ k, k ≤ steps ∧ searchName base used steps n = nameCandidate base (n + k) ∧
      (∀ j < k, nameCandidate base (n + j) ∈ used) ∧
      (k < steps → nameCandidate base (n + k) ∉ used) := by
  induction steps generalizing n with
  | zero => exact ⟨0, Nat.le_refl 0, rfl, by simp, by simp⟩
  | succ steps ih =>
    unfold searchName
    by_cases hused : nameCandidate base n ∈ used
    · obtain ⟨k, hk, hfound, hbefore, hfree⟩ := ih (n + 1)
      rw [if_pos (List.contains_iff_mem.2 hused)]
      refine ⟨k + 1, by omega, ?_, ?_, ?_⟩
      · rw [hfound]
        congr 1
        omega
      · intro j hj
        cases j with
        | zero => exact hused
        | succ j =>
          have hprior := hbefore j (by omega)
          rwa [Nat.add_right_comm] at hprior
      · intro hlt
        have hlast := hfree (by omega)
        rwa [Nat.add_right_comm] at hlast
    · rw [if_neg (by simpa using hused)]
      exact ⟨0, by omega, rfl, by simp, fun _ => hused⟩

/-- Distinct used candidates cannot be more than the used names. -/
private theorem candidates_used_le (base : Text) (used : List Text) (count : Nat)
    (hused : ∀ j < count, nameCandidate base j ∈ used) : count ≤ used.length := by
  have hdistinct : ((List.range count).map (nameCandidate base)).Nodup :=
    List.nodup_range.map (nameCandidate_injective base)
  have hsubset : (List.range count).map (nameCandidate base) ⊆ used := by
    intro name hname
    obtain ⟨j, hj, rfl⟩ := List.mem_map.1 hname
    exact hused j (List.mem_range.1 hj)
  have hlength := (List.subperm_of_subset hdistinct hsubset).length_le
  simpa using hlength

/-- The fresh name is the first candidate that is not used. -/
theorem freshName_eq_first_free (base : Text) (used : List Text) :
    ∃ k, k ≤ used.length ∧ freshName base used = nameCandidate base k ∧
      (∀ j < k, nameCandidate base j ∈ used) ∧ nameCandidate base k ∉ used := by
  obtain ⟨k, hk, hfound, hbefore, hfree⟩ := searchName_eq_candidate base used used.length 0
  simp only [Nat.zero_add] at hfound hbefore hfree
  refine ⟨k, hk, hfound, hbefore, ?_⟩
  intro hlast
  have hmore : k + 1 ≤ used.length := by
    apply candidates_used_le base used
    intro j hj
    rcases Nat.lt_succ_iff_lt_or_eq.1 hj with hlt | rfl
    · exact hbefore j hlt
    · exact hlast
  exact hfree (by omega) hlast

theorem freshName_notMem (base : Text) (used : List Text) : freshName base used ∉ used := by
  obtain ⟨k, _, hname, _, hfree⟩ := freshName_eq_first_free base used
  rwa [hname]

/-- The base with a number behind it. The candidate at place `n + 1` bears the number `n + 2`. -/
def numberedName (base : Text) (n : Nat) : Text := base ++ "_" ++ toString n

/-- The search as a loop. It stands at a candidate and knows the number of the next one; while the
candidate is used, the next one takes its place. It ends after the given number of turns at the name
that is found. No bound is set: that it ends at all is a fact about the names. -/
inductive SearchEnds (base : Text) (used : List Text) : Text → Nat → Nat → Text → Prop where
  | free {candidate : Text} {next : Nat} (hfree : candidate ∉ used) :
      SearchEnds base used candidate next 0 candidate
  | turn {candidate : Text} {next turns : Nat} {found : Text} (hused : candidate ∈ used)
      (hrest : SearchEnds base used (numberedName base next) (next + 1) turns found) :
      SearchEnds base used candidate next (turns + 1) found

/-- The loop ends in one way only. -/
theorem SearchEnds.unique {base : Text} {used : List Text} {candidate : Text} {next : Nat}
    {turns others : Nat} {found other : Text} (h : SearchEnds base used candidate next turns found)
    (hother : SearchEnds base used candidate next others other) :
    turns = others ∧ found = other := by
  induction h generalizing others with
  | free hfree =>
    cases hother with
    | free => exact ⟨rfl, rfl⟩
    | turn hused => exact absurd hused hfree
  | turn hused _ ih =>
    cases hother with
    | free hfree => exact absurd hused hfree
    | turn _ hrest =>
      obtain ⟨hturns, hfound⟩ := ih hrest
      exact ⟨congrArg (· + 1) hturns, hfound⟩

/-- From the candidate at a place the loop goes to the first free one, a turn for each that is used
before it. -/
theorem searchEnds_of_first_free {base : Text} {used : List Text} (place turns : Nat)
    (hbefore : ∀ j < turns, nameCandidate base (j + place) ∈ used)
    (hfree : nameCandidate base (turns + place) ∉ used) :
    SearchEnds base used (nameCandidate base place) (place + 2) turns
      (nameCandidate base (turns + place)) := by
  induction turns generalizing place with
  | zero =>
    rw [Nat.zero_add] at hfree ⊢
    exact .free hfree
  | succ turns ih =>
    have hplaces : ∀ j, j + 1 + place = j + (place + 1) := fun j => by omega
    have hfirst := hbefore 0 (by omega)
    rw [Nat.zero_add] at hfirst
    rw [hplaces] at hfree ⊢
    refine .turn hfirst (ih (place + 1) ?_ hfree)
    intro j hj
    rw [← hplaces]
    exact hbefore (j + 1) (by omega)

/-- The names of a model's fields. -/
def Model.fieldNames (m : Model) : List Text := m.fields.map (·.name)

/-- The least number of a free name, where the candidates in front of it are used. -/
theorem isLeast_number {base : Text} {used : List Text} {k : Nat}
    (hbefore : ∀ j < k + 1, nameCandidate base j ∈ used)
    (hfree : nameCandidate base (k + 1) ∉ used) :
    IsLeast {n | 2 ≤ n ∧ numberedName base n ∉ used} (k + 2) := by
  refine ⟨⟨by omega, hfree⟩, ?_⟩
  rintro n ⟨htwo, hn⟩
  by_contra hless
  obtain ⟨j, rfl⟩ := Nat.exists_eq_add_of_le' htwo
  exact hn (hbefore (j + 1) (by omega))

/-- The search for a name that no field of a model bears.

* As a loop from the base and the number two it ends, in one way, after no more turns than the model
  has fields, and finds the fresh name.
* The fresh name is the base where that is free, and else the base with the least number from two on
  that makes it free.
* No field of the model bears it. -/
theorem freshName_least_free (base : Text) (m : Model) :
    (∃ turns ≤ m.fields.length, ∀ n name, SearchEnds base m.fieldNames base 2 n name ↔
        n = turns ∧ name = freshName base m.fieldNames) ∧
      (base ∉ m.fieldNames ∧ freshName base m.fieldNames = base ∨
        base ∈ m.fieldNames ∧ ∃ n, IsLeast {n | 2 ≤ n ∧ numberedName base n ∉ m.fieldNames} n ∧
          freshName base m.fieldNames = numberedName base n) ∧
      freshName base m.fieldNames ∉ m.fieldNames := by
  obtain ⟨k, hk, hname, hbefore, hfree⟩ := freshName_eq_first_free base m.fieldNames
  refine ⟨⟨k, ?_, ?_⟩, ?_, freshName_notMem base m.fieldNames⟩
  · rwa [Model.fieldNames, List.length_map] at hk
  · have hends : SearchEnds base m.fieldNames base 2 k (freshName base m.fieldNames) := by
      rw [hname]
      exact searchEnds_of_first_free 0 k hbefore hfree
    intro n name
    constructor
    · intro h
      exact h.unique hends
    · rintro ⟨rfl, rfl⟩
      exact hends
  · cases k with
    | zero => exact .inl ⟨hfree, hname⟩
    | succ k => exact .inr ⟨hbefore 0 (by omega), k + 2, isLeast_number hbefore hfree, hname⟩

end SchemaBook
