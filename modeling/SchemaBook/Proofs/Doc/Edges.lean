import Mathlib.Data.List.DropRight
import SchemaBook.Doc.Prose
import SchemaBook.Proofs.Doc.Lines

/-!
What is left of a list when the elements at its ends that satisfy a test are dropped. To trim a text
is the same with white space, so one statement settles both: the rest is what stands between two
such runs and neither starts nor ends with such an element.
-/

namespace SchemaBook

section Edges

variable {α : Type} {test : α → Bool} {xs core : List α}

theorem dropEdges_eq_rdropWhile (test : α → Bool) (xs : List α) :
    dropEdges test xs = (xs.dropWhile test).rdropWhile test := rfl

theorem eq_false_of_head_dropWhile : ∀ a ∈ (xs.dropWhile test).head?, test a = false := by
  intro a ha
  have hhead := List.head?_dropWhile_not test xs
  rw [Option.mem_def.1 ha] at hhead
  simpa using hhead

theorem dropWhile_eq_self_of_head (h : ∀ a ∈ xs.head?, test a = false) :
    xs.dropWhile test = xs := by
  cases xs with
  | nil => rfl
  | cons a rest => exact List.dropWhile_cons_of_neg (by simp [h a rfl])

theorem rdropWhile_append_of_pos {back : List α} (h : ∀ a ∈ back, test a = true) :
    (xs ++ back).rdropWhile test = xs.rdropWhile test := by
  have hreverse : ∀ a ∈ back.reverse, test a = true := fun a ha => h a (List.mem_reverse.1 ha)
  rw [List.rdropWhile, List.reverse_append, List.dropWhile_append_of_pos hreverse, List.rdropWhile]

theorem rdropWhile_eq_self_of_getLast (h : ∀ a ∈ xs.getLast?, test a = false) :
    xs.rdropWhile test = xs := by
  rw [← List.head?_reverse] at h
  rw [List.rdropWhile, dropWhile_eq_self_of_head h, List.reverse_reverse]

/-- The part of a list between two runs of elements that satisfy a test. -/
structure IsBetweenEdges (test : α → Bool) (xs core : List α) : Prop where
  split : ∃ front back, xs = front ++ (core ++ back) ∧ (∀ a ∈ front, test a = true) ∧
    ∀ a ∈ back, test a = true
  start : ∀ a ∈ core.head?, test a = false
  finish : ∀ a ∈ core.getLast?, test a = false

theorem IsBetweenEdges.subset (h : IsBetweenEdges test xs core) : core ⊆ xs := by
  obtain ⟨front, back, rfl, -⟩ := h.split
  exact List.subset_append_of_subset_right _ (List.subset_append_left _ _)

theorem isBetweenEdges_dropEdges (test : α → Bool) (xs : List α) :
    IsBetweenEdges test xs (dropEdges test xs) where
  split := by
    refine ⟨xs.takeWhile test, (xs.dropWhile test).rtakeWhile test, ?_, ?_, ?_⟩
    · rw [dropEdges_eq_rdropWhile, List.rdropWhile_append_rtakeWhile,
        List.takeWhile_append_dropWhile]
    · exact List.all_eq_true.1 List.all_takeWhile
    · exact fun a ha => List.mem_rtakeWhile_imp ha
  start := by
    intro a ha
    obtain ⟨rest, hcore⟩ := List.head?_eq_some_iff.1 ha
    obtain ⟨back, hback⟩ : dropEdges test xs <+: xs.dropWhile test := List.rdropWhile_prefix test _
    have hhead : ∀ b ∈ (xs.dropWhile test).head?, test b = false := eq_false_of_head_dropWhile
    refine hhead a ?_
    rw [← hback, hcore]
    rfl
  finish := by
    intro a ha
    rw [dropEdges, List.getLast?_reverse] at ha
    exact eq_false_of_head_dropWhile a ha

/-- A list is taken apart between its edges in one way. -/
theorem dropEdges_eq_iff : dropEdges test xs = core ↔ IsBetweenEdges test xs core := by
  constructor
  · rintro rfl
    exact isBetweenEdges_dropEdges test xs
  · rintro ⟨⟨front, back, rfl, hfront, hback⟩, hstart, hfinish⟩
    rw [dropEdges_eq_rdropWhile, List.dropWhile_append_of_pos hfront]
    cases core with
    | nil =>
      rw [List.nil_append, List.dropWhile_eq_nil_iff.2 hback, List.rdropWhile_nil]
    | cons a rest =>
      have hkept : (a :: rest ++ back).dropWhile test = a :: rest ++ back :=
        dropWhile_eq_self_of_head hstart
      rw [hkept, rdropWhile_append_of_pos hback, rdropWhile_eq_self_of_getLast hfinish]

/-- Elements that satisfy the test may be put at the ends. -/
theorem dropEdges_append {front back : List α} (hfront : ∀ a ∈ front, test a = true)
    (hback : ∀ a ∈ back, test a = true) (xs : List α) :
    dropEdges test (front ++ (xs ++ back)) = dropEdges test xs := by
  obtain ⟨⟨before, after, hxs, hbefore, hafter⟩, hstart, hfinish⟩ :=
    isBetweenEdges_dropEdges test xs
  refine dropEdges_eq_iff.2 ⟨⟨front ++ before, after ++ back, ?_, ?_, ?_⟩, hstart, hfinish⟩
  · conv_lhs => rw [hxs]
    simp only [List.append_assoc]
  · exact List.forall_mem_append.2 ⟨hfront, hbefore⟩
  · exact List.forall_mem_append.2 ⟨hafter, hback⟩

theorem dropEdges_eq_nil_iff : dropEdges test xs = [] ↔ ∀ a ∈ xs, test a = true := by
  constructor
  · intro h
    obtain ⟨front, back, hxs, hfront, hback⟩ := (isBetweenEdges_dropEdges test xs).split
    rw [hxs, h]
    exact List.forall_mem_append.2 ⟨hfront, hback⟩
  · intro h
    exact dropEdges_eq_iff.2 ⟨⟨xs, [], by simp, h, nofun⟩, nofun, nofun⟩

end Edges

namespace Text

/-- To trim a text is to drop the white space at its ends. -/
theorem trim_eq_iff {cs core : Text} :
    trim cs = core ↔ IsBetweenEdges CodePoint.isBlank cs core := dropEdges_eq_iff

theorem trim_subset (cs : Text) : trim cs ⊆ cs := (trim_eq_iff.1 rfl).subset

end Text

end SchemaBook
