import SchemaBook.Proofs.Findings

/-!
What a configuration does to the issues of a list of models. The scan never looks at what was
reported, so a configuration may as well be applied to the finished list of issues: some are taken
out, of others errors are made. Main statement: validation with a configuration is validation
without one, filtered and relabelled, and one more code to ignore or to escalate touches the issues
of that code alone.
-/

namespace SchemaBook

def Issue.asError (issue : Issue) : Issue := { issue with severity := .error }

theorem Issue.asError_of_not_warning (issue : Issue) (h : issue.severity ≠ .warning) :
    issue.asError = issue := by
  obtain ⟨severity, code, message, path, hint⟩ := issue
  cases severity with
  | error => rfl
  | warning => exact absurd rfl h

namespace ValidationConfig

/-- An issue that is not ignored, as it is reported: a warning of an escalated code is an error. -/
def relabel (config : ValidationConfig) (issue : Issue) : Issue :=
  if issue.severity = .warning ∧ config.escalated.contains issue.code then issue.asError else issue

/-- The issues that a configuration leaves of a list, as it reports them. -/
def applied (config : ValidationConfig) (issues : List Issue) : List Issue :=
  (issues.filter fun issue => !config.ignored.contains issue.code).map config.relabel

def ignoring (config : ValidationConfig) (code : Text) : ValidationConfig :=
  { config with ignored := code :: config.ignored }

def escalating (config : ValidationConfig) (code : Text) : ValidationConfig :=
  { config with escalated := code :: config.escalated }

@[simp]
theorem code_relabel (config : ValidationConfig) (issue : Issue) :
    (config.relabel issue).code = issue.code := by
  unfold relabel
  split <;> rfl

/-- Only the severity of an issue depends on the configuration. -/
theorem text_relabel (config : ValidationConfig) (issue : Issue) :
    (config.relabel issue).message = issue.message ∧ (config.relabel issue).path = issue.path ∧
      (config.relabel issue).hint = issue.hint := by
  unfold relabel
  split <;> exact ⟨rfl, rfl, rfl⟩

theorem asError_relabel (config : ValidationConfig) (issue : Issue) :
    (config.relabel issue).asError = issue.asError := by
  unfold relabel
  split <;> rfl

@[simp]
theorem relabel_ignoring (config : ValidationConfig) (code : Text) :
    (config.ignoring code).relabel = config.relabel := rfl

theorem relabel_escalating (config : ValidationConfig) (code : Text) (issue : Issue) :
    (config.escalating code).relabel issue =
      if issue.code = code then (config.relabel issue).asError else config.relabel issue := by
  have hmem : (config.escalating code).escalated.contains issue.code = true ↔
      issue.code = code ∨ config.escalated.contains issue.code = true := by
    simp [escalating]
  rw [asError_relabel]
  by_cases hcode : issue.code = code
  · rw [if_pos hcode]
    by_cases hwarning : issue.severity = .warning
    · exact if_pos ⟨hwarning, hmem.2 (.inl hcode)⟩
    · rw [relabel, if_neg fun h => hwarning h.1, issue.asError_of_not_warning hwarning]
  · rw [if_neg hcode, relabel, relabel]
    simp only [hmem, hcode, false_or]

theorem applied_eq (config : ValidationConfig) (issues : List Issue) : config.applied issues =
    (issues.filter fun issue => issue.code ∉ config.ignored).map config.relabel := by
  simp [applied]

theorem applied_ignoring (config : ValidationConfig) (code : Text) (issues : List Issue) :
    (config.ignoring code).applied issues =
      (config.applied issues).filter fun issue => issue.code ≠ code := by
  have htest : ∀ issue : Issue, (!(config.ignoring code).ignored.contains issue.code) =
      (decide (issue.code ≠ code) && !config.ignored.contains issue.code) := by
    intro issue
    simp [ignoring]
  rw [applied, applied, List.filter_map, List.filter_filter]
  simp only [htest, relabel_ignoring, Function.comp_def, code_relabel]

theorem applied_escalating (config : ValidationConfig) (code : Text) (issues : List Issue) :
    (config.escalating code).applied issues =
      (config.applied issues).map fun issue =>
        if issue.code = code then issue.asError else issue := by
  rw [applied, applied, List.map_map]
  refine List.map_congr_left fun issue _ => ?_
  rw [relabel_escalating, Function.comp_apply, code_relabel]

/-- A finding is reported as the configuration applies to its issue. -/
theorem report_eq_applied (config : ValidationConfig) (finding : Finding) :
    config.report finding = config.applied [finding.issue] := by
  have hcode : finding.issue.code = finding.code := rfl
  by_cases hignored : finding.code ∈ config.ignored
  · simp [report, applied, hcode, hignored]
  · by_cases hescalates : finding.severity = .warning ∧ finding.code ∈ config.escalated
    · simp [report, applied, relabel, Finding.issue, Issue.asError, hignored, hescalates]
    · simp [report, applied, relabel, Finding.issue, hignored, hescalates]

theorem applied_eq_flatMap (config : ValidationConfig) (issues : List Issue) :
    config.applied issues = issues.flatMap fun issue => config.applied [issue] := by
  induction issues with
  | nil => rfl
  | cons issue rest ih =>
    rw [List.flatMap_cons, ← ih, applied, applied, applied, ← List.map_append, ← List.filter_append,
      List.singleton_append]

end ValidationConfig

theorem validate_eq_applied (models : List Model) (config : ValidationConfig) :
    validate models config = config.applied (validate models {}) := by
  calc validate models config
      = (findings models).flatMap config.report := validate_eq_report config models
    _ = (findings models).flatMap fun finding => config.applied [finding.issue] :=
        List.flatMap_congr fun finding _ => config.report_eq_applied finding
    _ = config.applied ((findings models).map Finding.issue) := by
        rw [config.applied_eq_flatMap, List.flatMap_map]
    _ = config.applied (validate models {}) := by rw [validate_eq_map_issue]

/-- A configuration filters and relabels the issues of a list and does nothing else to them. Issues
of ignored codes are taken out, warnings of escalated codes become errors, and the others, their
order and all texts stay. One more code to ignore takes out the issues of that code, one more code
to escalate makes them errors, and no other issue comes, goes or changes. -/
theorem validate_filters_and_relabels (models : List Model) (config : ValidationConfig) :
    validate models config =
        ((validate models {}).filter fun issue => issue.code ∉ config.ignored).map config.relabel ∧
      (∀ issue, (config.relabel issue).code = issue.code ∧
        (config.relabel issue).message = issue.message ∧
        (config.relabel issue).path = issue.path ∧ (config.relabel issue).hint = issue.hint) ∧
      ∀ code,
        validate models (config.ignoring code) =
            (validate models config).filter (fun issue => issue.code ≠ code) ∧
          validate models (config.escalating code) =
            (validate models config).map fun issue =>
              if issue.code = code then issue.asError else issue := by
  refine ⟨(validate_eq_applied models config).trans (config.applied_eq _),
    fun issue => ⟨config.code_relabel issue, config.text_relabel issue⟩, fun code => ⟨?_, ?_⟩⟩
  · rw [validate_eq_applied, config.applied_ignoring, ← validate_eq_applied]
  · rw [validate_eq_applied, config.applied_escalating, ← validate_eq_applied]

end SchemaBook
