import Mathlib.Tactic
import SchemaBook.Schema.Validation

/-!
What validation checks. The scan carries the names that it has seen, so one step finds an error
exactly when it meets a name for the second time. Main statement: a list of models has no errors
exactly when its model names, its storage names and the field names in each model are distinct.
-/

namespace SchemaBook

/-- What diagrams need of a list of models to be unambiguous. -/
structure Unambiguous (models : List Model) : Prop where
  names : (models.map (·.name)).Nodup
  storageNames : (models.map (·.storageName)).Nodup
  fieldNames : ∀ m ∈ models, (m.fields.map (·.name)).Nodup

def NoErrors (issues : List Issue) : Prop := ∀ issue ∈ issues, issue.severity ≠ .error

theorem noErrors_nil : NoErrors [] := by
  intro issue hissue
  cases hissue

theorem noErrors_append {issues others : List Issue} :
    NoErrors (issues ++ others) ↔ NoErrors issues ∧ NoErrors others :=
  List.forall_mem_append

/-- Where no code is ignored or escalated, a finding is reported as grave as it is. -/
theorem noErrors_report (finding : Finding) :
    NoErrors (ValidationConfig.report {} finding) ↔ finding.severity ≠ .error := by
  cases finding <;> simp [NoErrors, ValidationConfig.report, Finding.severity]

theorem errorMessages_eq_nil_iff_noErrors (models : List Model) :
    errorMessages models = [] ↔ NoErrors (validate models {}) := by
  simp [errorMessages, messagesOf, NoErrors, List.filter_eq_nil_iff]

/-- The names are distinct, and none of them was seen before. -/
def Fresh (seen names : List Text) : Prop := names.Nodup ∧ ∀ name ∈ names, name ∉ seen

theorem fresh_nil_iff {names : List Text} : Fresh [] names ↔ names.Nodup := by
  simp [Fresh]

/-- A scan may take one name more as seen and go on with the rest. -/
theorem fresh_cons_iff {seen seenNext names : List Text} {name : Text}
    (hnext : ∀ other, other ∈ seenNext ↔ other = name ∨ other ∈ seen) :
    Fresh seen (name :: names) ↔ name ∉ seen ∧ Fresh seenNext names := by
  simp only [Fresh, List.nodup_cons, List.forall_mem_cons]
  constructor
  · rintro ⟨⟨hfirst, hrest⟩, hname, hnames⟩
    refine ⟨hname, hrest, ?_⟩
    intro other hother hseen
    rcases (hnext other).1 hseen with rfl | hold
    · exact hfirst hother
    · exact hnames other hother hold
  · rintro ⟨hname, hrest, hnames⟩
    refine ⟨⟨?_, hrest⟩, hname, ?_⟩
    · intro hfirst
      exact hnames name hfirst ((hnext name).2 (.inl rfl))
    · intro other hother hseen
      exact hnames other hother ((hnext other).2 (.inr hseen))

theorem noErrors_scanFields (m : Model) (modelPlace : Nat) (seen : List Text) (place : Nat)
    (fields : List Field) :
    NoErrors (scanFields {} m modelPlace seen place fields) ↔ Fresh seen (fields.map (·.name)) := by
  induction fields generalizing seen place with
  | nil => simp [scanFields, noErrors_nil, Fresh]
  | cons f rest ih =>
    rw [scanFields, noErrors_append, ih, List.map_cons,
      fresh_cons_iff fun other => List.mem_cons]
    by_cases hseen : f.name ∈ seen
    · simp [hseen, noErrors_report, Finding.severity]
    · simp [hseen, noErrors_nil]

/-- The owner that the scan knows of a storage name is one of the names that it has seen. -/
def ModelScan.Coherent (scan : ModelScan) : Prop :=
  ∀ entry ∈ scan.storageNames, entry.2 ∈ scan.names.map Prod.fst

def ModelScan.IsNew (scan : ModelScan) (m : Model) : Prop :=
  m.name ∉ scan.names.map Prod.fst ∧ m.storageName ∉ scan.storageNames.map Prod.fst

theorem lookup_eq_none_of_notMem {α : Type} {entries : List (Text × α)} {name : Text}
    (h : name ∉ entries.map Prod.fst) : entries.lookup name = none := by
  rw [List.lookup_eq_none_iff]
  intro entry hentry
  rw [bne_iff_ne]
  intro heq
  exact h (heq ▸ List.mem_map_of_mem hentry)

theorem exists_lookup_of_mem {α : Type} {entries : List (Text × α)} {name : Text}
    (h : name ∈ entries.map Prod.fst) :
    ∃ value, entries.lookup name = some value ∧ (name, value) ∈ entries := by
  obtain ⟨entry, hentry, hname⟩ := List.mem_map.1 h
  have hsome : (entries.lookup name).isSome = true := by
    rw [List.lookup_isSome_iff]
    exact ⟨entry, hentry, by simp [hname]⟩
  obtain ⟨value, hvalue⟩ := Option.isSome_iff_exists.1 hsome
  obtain ⟨before, after, hentries, -⟩ := List.lookup_eq_some_iff.1 hvalue
  exact ⟨value, hvalue, hentries ▸ List.mem_append_right before List.mem_cons_self⟩

namespace ModelScan

/-- A step at a model with new names takes both as seen and reports no more than its fields. -/
theorem step_of_isNew {scan : ModelScan} {m : Model} (place : Nat) (hnew : scan.IsNew m) :
    scan.step {} (m, place) =
      { names := scan.names ++ [(m.name, place)]
        storageNames := scan.storageNames ++ [(m.storageName, m.name)]
        issues := scan.issues ++ scanFields {} m place [] 0 m.fields } := by
  simp [step, lookup_eq_none_of_notMem hnew.1, lookup_eq_none_of_notMem hnew.2]

/-- A step at a model with a name that was seen reports an error. The storage name of an owner of
the same name is no error by itself, but then the name was seen too. -/
theorem not_noErrors_step {scan : ModelScan} {m : Model} (place : Nat) (hscan : scan.Coherent)
    (hold : ¬scan.IsNew m) : ¬NoErrors (scan.step {} (m, place)).issues := by
  by_cases hname : m.name ∈ scan.names.map Prod.fst
  · obtain ⟨first, hfirst, -⟩ := exists_lookup_of_mem hname
    simp [step, hfirst, noErrors_append, noErrors_report, Finding.severity]
  · have hstorage : m.storageName ∈ scan.storageNames.map Prod.fst := by
      by_contra hstorage
      exact hold ⟨hname, hstorage⟩
    obtain ⟨owner, howner, hentry⟩ := exists_lookup_of_mem hstorage
    have hne : owner ≠ m.name := fun heq => hname (heq ▸ hscan _ hentry)
    simp [step, lookup_eq_none_of_notMem hname, howner, hne, noErrors_append, noErrors_report,
      Finding.severity]

theorem coherent_step_of_isNew {scan : ModelScan} {m : Model} (place : Nat)
    (hscan : scan.Coherent) (hnew : scan.IsNew m) : (scan.step {} (m, place)).Coherent := by
  rw [step_of_isNew place hnew]
  intro entry hentry
  rw [List.map_append, List.mem_append]
  rcases List.mem_append.1 hentry with hold | hlast
  · exact .inl (hscan entry hold)
  · rw [List.mem_singleton] at hlast
    subst hlast
    exact .inr (by simp)

theorem noErrors_of_noErrors_foldl {scan : ModelScan} {entries : List (Model × Nat)}
    (h : NoErrors (entries.foldl (step {}) scan).issues) : NoErrors scan.issues := by
  induction entries generalizing scan with
  | nil => exact h
  | cons entry rest ih =>
    have hstep := ih h
    simp only [step, List.append_assoc] at hstep
    exact (noErrors_append.1 hstep).1

/-- A run reports no errors exactly when all names that it meets are new, storage names and field
names included. -/
theorem noErrors_foldl {scan : ModelScan} (hscan : scan.Coherent) (entries : List (Model × Nat)) :
    NoErrors (entries.foldl (step {}) scan).issues ↔
      NoErrors scan.issues ∧
        Fresh (scan.names.map Prod.fst) ((entries.map Prod.fst).map (·.name)) ∧
        Fresh (scan.storageNames.map Prod.fst) ((entries.map Prod.fst).map (·.storageName)) ∧
        ∀ m ∈ entries.map Prod.fst, (m.fields.map (·.name)).Nodup := by
  induction entries generalizing scan with
  | nil => simp [Fresh]
  | cons entry rest ih =>
    obtain ⟨m, place⟩ := entry
    have hnames : ∀ other, other ∈ (scan.names ++ [(m.name, place)]).map Prod.fst ↔
        other = m.name ∨ other ∈ scan.names.map Prod.fst := by
      intro other
      simp [or_comm]
    have hstorage : ∀ other,
        other ∈ (scan.storageNames ++ [(m.storageName, m.name)]).map Prod.fst ↔
          other = m.storageName ∨ other ∈ scan.storageNames.map Prod.fst := by
      intro other
      simp [or_comm]
    rw [List.map_cons, List.map_cons, List.map_cons, fresh_cons_iff hnames,
      fresh_cons_iff hstorage, List.forall_mem_cons, List.foldl_cons]
    -- A step with an old name reports an error, and only such a step may break the invariant.
    by_cases hnew : scan.IsNew m
    · rw [ih (coherent_step_of_isNew place hscan hnew), step_of_isNew place hnew, noErrors_append,
        noErrors_scanFields, fresh_nil_iff]
      simp only [hnew.1, hnew.2, not_false_eq_true, true_and]
      tauto
    · constructor
      · intro h
        exact absurd (noErrors_of_noErrors_foldl h) (not_noErrors_step place hscan hnew)
      · rintro ⟨-, ⟨hname, -⟩, ⟨hstorageName, -⟩, -⟩
        exact absurd ⟨hname, hstorageName⟩ hnew

end ModelScan

theorem noErrors_scanTargets (names : List (Text × Nat)) (entry : Model × Nat) :
    NoErrors (scanTargets {} names entry) := by
  intro issue hissue
  obtain ⟨f, -, hreport⟩ := List.mem_flatMap.1 hissue
  split at hreport
  · cases hreport
  · exact (noErrors_report _).2 (by simp [Finding.severity]) issue hreport

/-- Validation reports an error exactly when some name occurs twice: among the models, among their
storage names, or among the fields of a model. -/
theorem errorMessages_eq_nil_iff (models : List Model) :
    errorMessages models = [] ↔ Unambiguous models := by
  rw [errorMessages_eq_nil_iff_noErrors, validate]
  by_cases hempty : models = []
  · subst hempty
    simp only [List.isEmpty_nil, if_true, noErrors_report, Finding.severity]
    exact ⟨fun _ => ⟨List.nodup_nil, List.nodup_nil, by simp⟩, fun _ => by simp⟩
  · have hcoherent : ModelScan.Coherent {} := fun entry hentry => nomatch hentry
    have htargets : NoErrors (models.zipIdx.flatMap
        (scanTargets {} (models.zipIdx.foldl (ModelScan.step {}) {}).names)) := by
      intro issue hissue
      obtain ⟨entry, -, hentry⟩ := List.mem_flatMap.1 hissue
      exact noErrors_scanTargets _ entry issue hentry
    rw [if_neg (by simpa using hempty), noErrors_append, ModelScan.noErrors_foldl hcoherent,
      List.zipIdx_map_fst]
    constructor
    · rintro ⟨⟨-, hnames, hstorageNames, hfieldNames⟩, -⟩
      exact ⟨fresh_nil_iff.1 hnames, fresh_nil_iff.1 hstorageNames, hfieldNames⟩
    · intro h
      exact ⟨⟨noErrors_nil, fresh_nil_iff.2 h.names, fresh_nil_iff.2 h.storageNames,
        h.fieldNames⟩, htargets⟩

end SchemaBook
