import SchemaBook.Loader.SchemaFile
import SchemaBook.Proofs.Outcome
import SchemaBook.Yaml.Reader

/-!
What reading a schema text reports, for every reader of YAML. A malformed text is refused with its
path, at the first reading and at the second. Main statement: exactly those texts break this rule at
which the reader raises an error of its own, and that error leaves the loader as it is. What is
assumed of the reader is stated of it by name: that it refuses a text for its form, or for a bare
date that is no day of the calendar.
-/

namespace SchemaBook

/-- The fault is an error of a wrong value that names the path. -/
def LoadFault.IsRefusalAt (fault : LoadFault) (path : Text) : Prop :=
  fault.kind.isValue = true ∧ refusal path <+: fault.message

theorem LoadFault.isRefusalAt_malformed (path reason : Text) :
    (malformed path reason).IsRefusalAt path :=
  ⟨rfl, by rw [message, List.append_assoc]; exact List.prefix_append _ _⟩

section Reader

variable {α : Type} (read : YamlReader α)

/-- What reading a schema text should come to: the data of the text, or of the repaired text where
the first reading failed and the repair changed something, or a fault that names the path. -/
inductive ReportsAtPath (path raw : Text) : Except LoadFault α → Prop where
  | given {data : α} (h : read raw = .ok data) : ReportsAtPath path raw (.ok data)
  | repaired {first : ReadFault} {data : α} (hfirst : read raw = .error first)
      (hchanged : (Repair.repair raw).2 ≠ []) (h : read (Repair.repair raw).1 = .ok data) :
      ReportsAtPath path raw (.ok data)
  | refused {fault : LoadFault} (h : fault.IsRefusalAt path) : ReportsAtPath path raw (.error fault)

/-- The reader refuses a text for its form, as it does for a wrong mark or an unknown tag. -/
def RefusesForm (text : Text) : Prop := ∃ reason, read text = .error (.malformed reason)

/-- What the calendar says of a date whose month or day is out of range. -/
def calendarMessages : List Text := ["month must be in 1..12", "day is out of range for month"]

/-- The reader refuses a text for a bare date, and the error is the one of the calendar. -/
def RefusesDate (text : Text) : Prop :=
  ∃ message ∈ calendarMessages, read text = .error (.raised ⟨.value, message⟩)

/-- A reading of the text, or of the repaired text behind it, ends with an error of the reader. -/
inductive MeetsError (raw : Text) (error : RaisedError) : Prop where
  | given (h : read raw = .error (.raised error))
  | repaired (hfirst : RefusesForm read raw) (hchanged : (Repair.repair raw).2 ≠ [])
      (h : read (Repair.repair raw).1 = .error (.raised error))

variable {read} {path raw : Text}

theorem readSchemaText_of_meetsError {error : RaisedError} (h : MeetsError read raw error) :
    readSchemaText read path raw = { result := .error (.reading error) } := by
  cases h with
  | given h => rw [readSchemaText, h]
  | repaired hfirst hchanged h =>
    obtain ⟨reason, hfirst⟩ := hfirst
    simp [readSchemaText, hfirst, hchanged, h, LoadFault.ofReader]

variable (read) in
/-- Without an error of the reader, a text that is refused is refused with its path. -/
theorem reportsAtPath_or_meetsError (path raw : Text) :
    ReportsAtPath read path raw (readSchemaText read path raw).result ∨
      ∃ error, MeetsError read raw error := by
  unfold readSchemaText
  cases hfirst : read raw with
  | ok data => exact .inl (.given hfirst)
  | error first =>
    cases first with
    | raised error => exact .inr ⟨error, .given hfirst⟩
    | malformed reason =>
      dsimp only
      split
      · exact .inl (.refused (LoadFault.isRefusalAt_malformed path reason))
      · next hempty =>
        have hchanged : (Repair.repair raw).2 ≠ [] := by simpa using hempty
        cases hsecond : read (Repair.repair raw).1 with
        | ok data => exact .inl (.repaired hfirst hchanged hsecond)
        | error second =>
          cases second with
          | malformed other => exact .inl (.refused (LoadFault.isRefusalAt_malformed path other))
          | raised error => exact .inr ⟨error, .repaired ⟨reason, hfirst⟩ hchanged hsecond⟩

/-- A text that should give data is not refused. -/
theorem readSchemaText_of_reportsAtPath {data : α} (hnone : ∀ error, ¬MeetsError read raw error)
    (h : ReportsAtPath read path raw (.ok data)) :
    (readSchemaText read path raw).result = .ok data := by
  cases h with
  | given h => rw [readSchemaText, h]
  | @repaired first _ hfirst hchanged h =>
    cases first with
    | malformed reason => simp [readSchemaText, hfirst, hchanged, h]
    | raised error => exact absurd (.given hfirst) (hnone error)

/-- A text that is refused for its form, and again once it is repaired, is refused with its path. -/
theorem exists_refusal_of_refusesForm (h : RefusesForm read raw)
    (hrepaired : (Repair.repair raw).2 = [] ∨ RefusesForm read (Repair.repair raw).1) :
    ∃ fault : LoadFault, (readSchemaText read path raw).result = .error fault ∧
      fault.IsRefusalAt path := by
  obtain ⟨reason, hfirst⟩ := h
  by_cases hchanged : (Repair.repair raw).2 = []
  · exact ⟨_, by simp [readSchemaText, hfirst, hchanged],
      LoadFault.isRefusalAt_malformed path reason⟩
  · obtain ⟨other, hsecond⟩ := hrepaired.resolve_left hchanged
    exact ⟨_, by simp [readSchemaText, hfirst, hchanged, hsecond, LoadFault.ofReader],
      LoadFault.isRefusalAt_malformed path other⟩

/-- The calendar says nothing of a path. -/
theorem not_isRefusalAt_of_mem_calendarMessages {message : Text} (h : message ∈ calendarMessages) :
    ¬(LoadFault.reading ⟨.value, message⟩).IsRefusalAt path := by
  rintro ⟨-, rest, hrest⟩
  have hmessage : refusal path ++ rest = message := hrest
  have hfirst : message.head? = some (.char 'F') := by
    rw [← hmessage]
    rfl
  have hother : ∀ told ∈ calendarMessages, told.head? ≠ some (.char 'F') := by decide
  exact hother message h hfirst

theorem exists_meetsError_of_refusesDate
    (h : RefusesDate read raw ∨ RefusesForm read raw ∧ (Repair.repair raw).2 ≠ [] ∧
      RefusesDate read (Repair.repair raw).1) :
    ∃ message ∈ calendarMessages, MeetsError read raw ⟨.value, message⟩ := by
  rcases h with ⟨message, hmessage, h⟩ | ⟨hfirst, hchanged, message, hmessage, h⟩
  · exact ⟨message, hmessage, .given h⟩
  · exact ⟨message, hmessage, .repaired hfirst hchanged h⟩

theorem isRefusalAt_of_reportsAtPath {error : RaisedError} (hmeets : MeetsError read raw error)
    (h : ReportsAtPath read path raw (readSchemaText read path raw).result) :
    (LoadFault.reading error).IsRefusalAt path := by
  rw [readSchemaText_of_meetsError hmeets] at h
  cases h with
  | refused hrefusal => exact hrefusal

end Reader

/-- Whatever reader is given, the result is reported against the path exactly when every error that
the reader raises at the text, or at the repaired text, happens to be such a report itself. Where it
raises none, every text that should give data gives it; where it raises one, this error is the
result, without notices. So a text that the reader refuses for its form is refused with its path,
also after the repair, and one that it refuses for a date is not. -/
theorem readSchemaText_reportsAtPath_iff {α : Type} (read : YamlReader α) (path raw : Text) :
    (ReportsAtPath read path raw (readSchemaText read path raw).result ↔
      ∀ error, MeetsError read raw error → (LoadFault.reading error).IsRefusalAt path) ∧
    ((∀ error, ¬MeetsError read raw error) → ∀ data, ReportsAtPath read path raw (.ok data) →
      (readSchemaText read path raw).result = .ok data) ∧
    (∀ error, MeetsError read raw error →
      readSchemaText read path raw = { result := .error (.reading error) }) ∧
    (RefusesForm read raw →
      ((Repair.repair raw).2 = [] ∨ RefusesForm read (Repair.repair raw).1) →
      ∃ fault : LoadFault, (readSchemaText read path raw).result = .error fault ∧
        fault.IsRefusalAt path) ∧
    (RefusesDate read raw ∨ RefusesForm read raw ∧ (Repair.repair raw).2 ≠ [] ∧
        RefusesDate read (Repair.repair raw).1 →
      ¬ReportsAtPath read path raw (readSchemaText read path raw).result) := by
  refine ⟨⟨fun h error hmeets => isRefusalAt_of_reportsAtPath hmeets h, fun hrefusals => ?_⟩,
    fun hnone data => readSchemaText_of_reportsAtPath hnone,
    fun error => readSchemaText_of_meetsError, exists_refusal_of_refusesForm, fun hdate h => ?_⟩
  · rcases reportsAtPath_or_meetsError read path raw with h | ⟨error, hmeets⟩
    · exact h
    · rw [readSchemaText_of_meetsError hmeets]
      exact .refused (hrefusals error hmeets)
  · obtain ⟨message, hmessage, hmeets⟩ := exists_meetsError_of_refusesDate hdate
    exact not_isRefusalAt_of_mem_calendarMessages hmessage (isRefusalAt_of_reportsAtPath hmeets h)

/-- An entry that is repaired, and a day of a thirteenth month. -/
def datedSchema : Text := "documentation: Paid: in full\nsince: 2024-13-01\n"

/-- That day is told of without the path, at the second reading. -/
theorem datedSchema_not_reported :
    RefusesForm Yaml.reader datedSchema ∧ (Repair.repair datedSchema).2 ≠ [] ∧
      RefusesDate Yaml.reader (Repair.repair datedSchema).1 ∧
      ¬ReportsAtPath Yaml.reader "schema.yaml" datedSchema
        (readSchemaText Yaml.reader "schema.yaml" datedSchema).result := by
  have hfirst : Yaml.load datedSchema = .error .malformed := by decide +kernel
  have hchanged : (Repair.repair datedSchema).2.isEmpty = false := by decide +kernel
  have hsecond : Yaml.load (Repair.repair datedSchema).1 = .error (.scalar .monthOutOfRange) := by
    decide +kernel
  have hform : RefusesForm Yaml.reader datedSchema := ⟨_, by rw [Yaml.reader, hfirst]; rfl⟩
  have hdate : RefusesDate Yaml.reader (Repair.repair datedSchema).1 :=
    ⟨_, List.mem_cons_self, by rw [Yaml.reader, hsecond]; rfl⟩
  have hrepaired := List.isEmpty_eq_false_iff.1 hchanged
  exact ⟨hform, hrepaired, hdate,
    (readSchemaText_reportsAtPath_iff Yaml.reader "schema.yaml" datedSchema).2.2.2.2
      (.inr ⟨hform, hrepaired, hdate⟩)⟩

/-- The day of a thirteenth month is told of without the path. -/
theorem not_all_reportAtPath :
    ¬∀ path raw,
      ReportsAtPath Yaml.reader path raw (readSchemaText Yaml.reader path raw).result := by
  intro h
  let raw : Text := "models:\n- name: A\n  documentation: 2024-13-01\n"
  have hload : Yaml.load raw = .error (.scalar .monthOutOfRange) := by decide +kernel
  have hmeets : MeetsError Yaml.reader raw ⟨.value, "month must be in 1..12"⟩ :=
    .given (by rw [Yaml.reader, hload]; rfl)
  exact not_isRefusalAt_of_mem_calendarMessages List.mem_cons_self
    (isRefusalAt_of_reportsAtPath hmeets (h "schema.yaml" raw))

end SchemaBook
