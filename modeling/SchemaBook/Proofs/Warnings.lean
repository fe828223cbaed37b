import SchemaBook.Proofs.Unambiguous

/-!
What validation warns of. The scan reports errors only and in the end has seen the name of every
model, so relations are held against all names of the list. Main statement: a list of models has no
warnings exactly when it is not empty and every relation leads to a name of the list.
-/

namespace SchemaBook

/-- What diagrams need of a list of models to leave no relation out. -/
structure Resolved (models : List Model) : Prop where
  nonempty : models ≠ []
  targets : ∀ m ∈ models, ∀ f ∈ m.relations, f.type ∈ models.map (·.name)

/-- Where no code is ignored or escalated, a finding is reported as one issue, as grave as it is. -/
theorem severity_of_mem_report {finding : Finding} {issue : Issue}
    (h : issue ∈ ValidationConfig.report {} finding) : issue.severity = finding.severity := by
  simp only [ValidationConfig.report, List.contains_nil, Bool.false_eq_true, if_false,
    Bool.and_false, List.mem_singleton] at h
  rw [h]

theorem report_ne_nil (finding : Finding) : ValidationConfig.report {} finding ≠ [] := by
  simp [ValidationConfig.report]

section Errors

variable {config : ValidationConfig} {issue : Issue}

theorem exists_error_of_mem_scanFields {m : Model} {modelPlace : Nat} {seen : List Text}
    {place : Nat} {fields : List Field}
    (h : issue ∈ scanFields config m modelPlace seen place fields) :
    ∃ finding, finding.severity = .error ∧ issue ∈ config.report finding := by
  induction fields generalizing seen place with
  | nil => cases h
  | cons f rest ih =>
    rcases List.mem_append.1 h with hfirst | hrest
    · split at hfirst
      · exact ⟨_, rfl, hfirst⟩
      · cases hfirst
    · exact ih hrest

/-- What a step adds to the issues are reports of errors. -/
theorem ModelScan.exists_error_of_mem_step {scan : ModelScan} {entry : Model × Nat}
    (h : issue ∈ (scan.step config entry).issues) :
    issue ∈ scan.issues ∨
      ∃ finding, finding.severity = .error ∧ issue ∈ config.report finding := by
  obtain ⟨m, place⟩ := entry
  simp only [step, List.mem_append] at h
  rcases h with ((hold | hname) | hstorage) | hfield
  · exact .inl hold
  · split at hname
    · exact .inr ⟨_, rfl, hname⟩
    · cases hname
  · split at hstorage
    · split at hstorage
      · cases hstorage
      · exact .inr ⟨_, rfl, hstorage⟩
    · cases hstorage
  · exact .inr (exists_error_of_mem_scanFields hfield)

theorem ModelScan.exists_error_of_mem_foldl {scan : ModelScan} {entries : List (Model × Nat)}
    (h : issue ∈ (entries.foldl (step config) scan).issues) :
    issue ∈ scan.issues ∨
      ∃ finding, finding.severity = .error ∧ issue ∈ config.report finding := by
  induction entries generalizing scan with
  | nil => exact .inl h
  | cons entry rest ih =>
    rcases ih h with hstep | herror
    · exact exists_error_of_mem_step hstep
    · exact .inr herror

/-- The scan of the models of a list reports errors only. -/
theorem ModelScan.exists_error_of_mem_scan {models : List Model}
    (h : issue ∈ (models.zipIdx.foldl (step config) {}).issues) :
    ∃ finding, finding.severity = .error ∧ issue ∈ config.report finding :=
  (exists_error_of_mem_foldl h).resolve_left List.not_mem_nil

end Errors

namespace ModelScan

/-- A step has seen the names that were seen before it, and the one of its model. -/
theorem mem_names_step (config : ValidationConfig) (scan : ModelScan) (entry : Model × Nat)
    (name : Text) :
    name ∈ (scan.step config entry).names.map Prod.fst ↔
      name ∈ scan.names.map Prod.fst ∨ name = entry.1.name := by
  obtain ⟨m, place⟩ := entry
  by_cases hseen : m.name ∈ scan.names.map Prod.fst
  · obtain ⟨first, hfirst, -⟩ := exists_lookup_of_mem hseen
    simp only [step, hfirst]
    constructor
    · exact .inl
    · rintro (hold | rfl)
      · exact hold
      · exact hseen
  · simp only [step, lookup_eq_none_of_notMem hseen, List.map_append, List.mem_append,
      List.map_singleton, List.mem_singleton]

theorem mem_names_foldl (config : ValidationConfig) (scan : ModelScan)
    (entries : List (Model × Nat)) (name : Text) :
    name ∈ (entries.foldl (step config) scan).names.map Prod.fst ↔
      name ∈ scan.names.map Prod.fst ∨ name ∈ (entries.map Prod.fst).map (·.name) := by
  induction entries generalizing scan with
  | nil => simp
  | cons entry rest ih =>
    rw [List.foldl_cons, ih, mem_names_step, List.map_cons, List.map_cons, List.mem_cons, or_assoc]

/-- The scan of a list looks a name up exactly when a model of the list has it. -/
theorem isSome_lookup_scan (config : ValidationConfig) (models : List Model) (name : Text) :
    ((models.zipIdx.foldl (step config) {}).names.lookup name).isSome = true ↔
      name ∈ models.map (·.name) := by
  have hseen := mem_names_foldl config {} models.zipIdx name
  rw [List.zipIdx_map_fst] at hseen
  simp only [List.map_nil, List.not_mem_nil, false_or] at hseen
  rw [← hseen]
  constructor
  · intro hsome
    by_contra hnone
    rw [lookup_eq_none_of_notMem hnone] at hsome
    cases hsome
  · intro hmem
    obtain ⟨place, hplace, -⟩ := exists_lookup_of_mem hmem
    rw [hplace, Option.isSome_some]

end ModelScan

/-- The relations of a model are reported unless all of them lead to a known name. -/
theorem scanTargets_eq_nil_iff {names : List (Text × Nat)} {entry : Model × Nat} :
    scanTargets {} names entry = [] ↔
      ∀ f ∈ entry.1.relations, (names.lookup f.type).isSome = true := by
  obtain ⟨m, place⟩ := entry
  simp only [scanTargets, List.flatMap_eq_nil_iff]
  refine forall₂_congr fun f _ => ?_
  split
  · next hsome => simp [hsome]
  · next hnone => simp [report_ne_nil, hnone]

theorem severity_of_mem_scanTargets {names : List (Text × Nat)} {entry : Model × Nat}
    {issue : Issue} (h : issue ∈ scanTargets {} names entry) : issue.severity = .warning := by
  obtain ⟨f, -, hreport⟩ := List.mem_flatMap.1 h
  split at hreport
  · cases hreport
  · exact severity_of_mem_report hreport

/-- The relations of all models are held against the names that the scan knows. -/
theorem flatMap_scanTargets_eq_nil_iff {names : List (Text × Nat)} {models : List Model} :
    models.zipIdx.flatMap (scanTargets {} names) = [] ↔
      ∀ m ∈ models, ∀ f ∈ m.relations, (names.lookup f.type).isSome = true := by
  have hmodels : ∀ m, m ∈ models ↔ ∃ entry ∈ models.zipIdx, entry.1 = m := by
    intro m
    rw [← List.mem_map, List.zipIdx_map_fst]
  simp only [List.flatMap_eq_nil_iff, scanTargets_eq_nil_iff, hmodels]
  constructor
  · rintro h m ⟨entry, hentry, rfl⟩
    exact h entry hentry
  · intro h entry hentry
    exact h entry.1 ⟨entry, hentry, rfl⟩

/-- Validation reports no warning exactly when there is a model and every relation leads to a name
of the list. -/
theorem warningMessages_eq_nil_iff (models : List Model) :
    warningMessages models = [] ↔ Resolved models := by
  have hnone : warningMessages models = [] ↔
      ∀ issue ∈ validate models {}, issue.severity ≠ .warning := by
    simp [warningMessages, messagesOf, List.filter_eq_nil_iff]
  rw [hnone, validate]
  by_cases hempty : models = []
  · subst hempty
    constructor
    · intro h
      exact absurd rfl (h _ List.mem_cons_self)
    · intro h
      exact absurd rfl h.nonempty
  · rw [if_neg (by simpa using hempty)]
    have htargets := @flatMap_scanTargets_eq_nil_iff
      (models.zipIdx.foldl (ModelScan.step {}) {}).names models
    simp only [ModelScan.isSome_lookup_scan] at htargets
    constructor
    · intro h
      refine ⟨hempty, htargets.1 (List.eq_nil_iff_forall_not_mem.2 ?_)⟩
      intro issue hissue
      obtain ⟨entry, -, hentry⟩ := List.mem_flatMap.1 hissue
      exact h issue (List.mem_append_right _ hissue) (severity_of_mem_scanTargets hentry)
    · intro h issue hissue
      dsimp only at hissue
      rw [htargets.2 h.targets, List.append_nil] at hissue
      obtain ⟨finding, herror, hreport⟩ := ModelScan.exists_error_of_mem_scan hissue
      simp [severity_of_mem_report hreport, herror]

end SchemaBook
