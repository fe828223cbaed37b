import Mathlib.Tactic

/-!
Outcomes of runs that may fail. A run in several steps gives a result when each step does, and its
fault is the fault of one step; the same of a run over a list and its elements.
-/

namespace SchemaBook

theorem exists_bind_ok_iff {ε α β : Type} {x : Except ε α} {f : α → Except ε β} :
    (∃ b, (x >>= f) = .ok b) ↔ ∃ a, x = .ok a ∧ ∃ b, f a = .ok b := by
  cases x with
  | error fault =>
    constructor
    · rintro ⟨b, h⟩
      cases h
    · rintro ⟨a, h, -⟩
      cases h
  | ok a =>
    constructor
    · intro h
      exact ⟨a, rfl, h⟩
    · rintro ⟨other, hother, h⟩
      obtain rfl := Except.ok.inj hother
      exact h

theorem bind_eq_error_iff {ε α β : Type} {x : Except ε α} {f : α → Except ε β} {fault : ε} :
    (x >>= f) = .error fault ↔ x = .error fault ∨ ∃ a, x = .ok a ∧ f a = .error fault := by
  cases x with
  | error other =>
    constructor
    · intro h
      exact .inl (congrArg Except.error (Except.error.inj h))
    · rintro (h | ⟨a, h, -⟩)
      · exact congrArg Except.error (Except.error.inj h)
      · cases h
  | ok a =>
    constructor
    · intro h
      exact .inr ⟨a, rfl, h⟩
    · rintro (h | ⟨other, hother, h⟩)
      · cases h
      · obtain rfl := Except.ok.inj hother
        exact h

instance decidableEqError {ε α : Type} [DecidableEq ε] (fault : ε) :
    ∀ x : Except ε α, Decidable (x = .error fault)
  | .ok _ => isFalse nofun
  | .error other => decidable_of_iff (other = fault) ⟨congrArg Except.error, Except.error.inj⟩

theorem mapError_eq_ok_iff {ε ε' α : Type} {x : Except ε α} {f : ε → ε'} {a : α} :
    x.mapError f = .ok a ↔ x = .ok a := by
  cases x <;> simp [Except.mapError]

/-- A run over a list succeeds exactly when it succeeds at every element. -/
theorem exists_mapM_ok_iff {ε α β : Type} {f : α → Except ε β} {xs : List α} :
    (∃ ys, xs.mapM f = .ok ys) ↔ ∀ x ∈ xs, ∃ y, f x = .ok y := by
  induction xs with
  | nil =>
    constructor
    · intro _ x hx
      cases hx
    · intro _
      exact ⟨[], rfl⟩
  | cons x rest ih =>
    rw [List.mapM_cons, exists_bind_ok_iff, List.forall_mem_cons, ← ih]
    constructor
    · rintro ⟨y, hy, hrest⟩
      obtain ⟨ys, hys, -⟩ := exists_bind_ok_iff.1 hrest
      exact ⟨⟨y, hy⟩, ys, hys⟩
    · rintro ⟨⟨y, hy⟩, ys, hys⟩
      exact ⟨y, hy, exists_bind_ok_iff.2 ⟨ys, hys, y :: ys, rfl⟩⟩

/-- A run over a list that fails has failed at an element. -/
theorem exists_of_mapM_eq_error {ε α β : Type} {f : α → Except ε β} {xs : List α} {fault : ε}
    (h : xs.mapM f = .error fault) : ∃ x ∈ xs, f x = .error fault := by
  induction xs with
  | nil => cases h
  | cons x rest ih =>
    rw [List.mapM_cons] at h
    rcases bind_eq_error_iff.1 h with hx | ⟨y, -, hothers⟩
    · exact ⟨x, List.mem_cons_self, hx⟩
    · rcases bind_eq_error_iff.1 hothers with hrest | ⟨ys, -, hdone⟩
      · obtain ⟨z, hz, hfault⟩ := ih hrest
        exact ⟨z, List.mem_cons_of_mem x hz, hfault⟩
      · cases hdone

end SchemaBook
