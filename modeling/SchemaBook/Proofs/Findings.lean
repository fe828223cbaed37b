import SchemaBook.Proofs.Warnings

/-!
What validation finds, model by model. The scan looks names up in what it has kept of the models
before; here each finding is read off the list itself, so none depends on what was found before it
or on which codes are reported. Main statements: validation reports exactly these findings, in
order, and so each repeated name and each relation to an unknown model once.
-/

namespace SchemaBook

/-- The elements, each with its place, whose key an earlier element has. -/
def repeated {α : Type} (key : α → Text) (xs : List α) : List (α × Nat) :=
  xs.zipIdx.filter fun entry => key entry.1 ∈ (xs.take entry.2).map key

/-- The issue that reports a finding where no code is ignored or escalated. -/
def Finding.issue (finding : Finding) : Issue where
  severity := finding.severity
  code := finding.code
  message := finding.message
  path := finding.path

/-- A model whose name an earlier model has, with the place of the first one of that name. -/
def nameFindings (models : List Model) (entry : Model × Nat) : List Finding :=
  match ((models.take entry.2).map (·.name)).findIdx? (· == entry.1.name) with
  | none => []
  | some first => [.duplicateModel entry.1.name first entry.2]

/-- A model whose storage name earlier models have, the first of which has another name. -/
def storageFindings (models : List Model) (entry : Model × Nat) : List Finding :=
  match (models.take entry.2).find? (·.storageName == entry.1.storageName) with
  | none => []
  | some owner =>
    if owner.name = entry.1.name then []
    else [.sharedStorageName owner.name entry.1.name entry.1.storageName entry.2]

def fieldFindings (entry : Model × Nat) : List Finding :=
  (repeated (·.name) entry.1.fields).map fun f =>
    .duplicateField entry.1.name f.1.name entry.2 f.2

/-- What makes the model at a place ambiguous. -/
def ambiguities (models : List Model) (entry : Model × Nat) : List Finding :=
  nameFindings models entry ++ storageFindings models entry ++ fieldFindings entry

def unknownTargets (models : List Model) (entry : Model × Nat) : List Finding :=
  (entry.1.relations.filter fun f => f.type ∉ models.map (·.name)).map fun f =>
    .unknownTarget entry.1.name f.name f.type entry.2

/-- All findings of a list, in the order of their reports. -/
def findings (models : List Model) : List Finding :=
  if models = [] then [.noModels]
  else models.zipIdx.flatMap (ambiguities models) ++ models.zipIdx.flatMap (unknownTargets models)

private theorem flatMap_filter {α β : Type} (p : α → Prop) [DecidablePred p] (f : α → List β)
    (xs : List α) : (xs.filter p).flatMap f = xs.flatMap fun a => if p a then f a else [] := by
  induction xs with
  | nil => rfl
  | cons a rest ih =>
    rw [List.filter_cons, List.flatMap_cons, ← ih]
    by_cases ha : p a <;> simp [ha]

section Scan

variable (config : ValidationConfig)

/-- The names seen before a field are those of the fields in front of it. -/
theorem scanFields_eq (m : Model) (place : Nat) {seen : List Text} (earlier : List Field)
    (hseen : ∀ name, name ∈ seen ↔ name ∈ earlier.map (·.name)) (rest : List Field) :
    scanFields config m place seen earlier.length rest =
      (((rest.zipIdx earlier.length).filter fun entry =>
        entry.1.name ∈ ((earlier ++ rest).take entry.2).map (·.name)).map fun f =>
          Finding.duplicateField m.name f.1.name place f.2).flatMap config.report := by
  induction rest generalizing seen earlier with
  | nil => rfl
  | cons f rest ih =>
    have hnext : ∀ name, name ∈ f.name :: seen ↔ name ∈ (earlier ++ [f]).map (·.name) := by
      intro name
      simp [hseen, or_comm]
    have hrest := ih (earlier ++ [f]) hnext
    rw [List.length_append, List.length_singleton, List.append_assoc, List.singleton_append]
      at hrest
    rw [scanFields, hrest, List.zipIdx_cons, List.filter_cons, List.take_left]
    by_cases hold : f.name ∈ seen
    · have hgiven := (hseen f.name).1 hold
      simp [hold, hgiven]
    · have hnew := mt (hseen f.name).2 hold
      simp [hold, hnew]

theorem scanFields_eq_report (m : Model) (place : Nat) :
    scanFields config m place [] 0 m.fields = (fieldFindings (m, place)).flatMap config.report :=
  scanFields_eq config m place [] (fun _ => Iff.rfl) m.fields

namespace ModelScan

/-- The entries with one more, unless there is one of its key. -/
def remember {α : Type} (entries : List (Text × α)) (key : Text) (value : α) :
    List (Text × α) :=
  match entries.lookup key with
  | some _ => entries
  | none => entries ++ [(key, value)]

theorem lookup_remember {α : Type} (entries : List (Text × α)) (key name : Text) (value : α) :
    (remember entries key value).lookup name =
      (entries.lookup name).or (if key == name then some value else none) := by
  unfold remember
  cases hkey : entries.lookup key with
  | some first =>
    by_cases heq : key = name
    · rw [← heq, hkey]
      rfl
    · simp [heq]
  | none =>
    rw [List.lookup_append, List.lookup_cons, BEq.comm]
    by_cases heq : key == name <;> simp [heq]

theorem names_step (scan : ModelScan) (m : Model) (place : Nat) :
    (scan.step config (m, place)).names = remember scan.names m.name place := by
  unfold step remember
  dsimp only
  cases scan.names.lookup m.name <;> rfl

theorem storageNames_step (scan : ModelScan) (m : Model) (place : Nat) :
    (scan.step config (m, place)).storageNames =
      remember scan.storageNames m.storageName m.name := by
  unfold step remember
  dsimp only
  cases scan.storageNames.lookup m.storageName <;> rfl

/-- What a scan keeps of the models before: of each name the place of the first model that has it,
of each storage name the name of the first model that has it. -/
structure Knows (scan : ModelScan) (earlier : List Model) : Prop where
  names : ∀ name, scan.names.lookup name = (earlier.map (·.name)).findIdx? (· == name)
  storageNames : ∀ name, scan.storageNames.lookup name =
    (earlier.find? (·.storageName == name)).map (·.name)

theorem knows_nil : ({} : ModelScan).Knows [] where
  names _ := rfl
  storageNames _ := rfl

theorem Knows.step {scan : ModelScan} {earlier : List Model} (h : scan.Knows earlier) (m : Model) :
    (scan.step config (m, earlier.length)).Knows (earlier ++ [m]) where
  names := by
    intro name
    rw [names_step, lookup_remember, h.names, List.map_append, List.findIdx?_append]
    by_cases heq : m.name == name <;> simp [heq]
  storageNames := by
    intro name
    rw [storageNames_step, lookup_remember, h.storageNames, List.find?_append]
    cases earlier.find? (·.storageName == name) with
    | some owner => rfl
    | none => by_cases heq : m.storageName == name <;> simp [heq]

/-- A step adds the reports of what makes its model ambiguous among all models; of the models behind
it nothing is needed. -/
theorem issues_step {scan : ModelScan} {earlier : List Model} (h : scan.Knows earlier) (m : Model)
    (rest : List Model) :
    (scan.step config (m, earlier.length)).issues = scan.issues ++
      (ambiguities (earlier ++ m :: rest) (m, earlier.length)).flatMap config.report := by
  have hname := h.names m.name
  have hstorage := h.storageNames m.storageName
  simp only [step, ambiguities, nameFindings, storageFindings, List.take_left,
    scanFields_eq_report, List.flatMap_append, hname, hstorage, List.append_assoc]
  cases (earlier.map (·.name)).findIdx? (· == m.name) <;>
    cases earlier.find? (·.storageName == m.storageName) with
    | none => simp
    | some owner => by_cases howner : owner.name = m.name <;> simp [howner]

theorem issues_foldl {scan : ModelScan} {earlier : List Model} (h : scan.Knows earlier)
    (rest : List Model) :
    ((rest.zipIdx earlier.length).foldl (step config) scan).issues = scan.issues ++
      ((rest.zipIdx earlier.length).flatMap (ambiguities (earlier ++ rest))).flatMap
        config.report := by
  induction rest generalizing scan earlier with
  | nil => simp
  | cons m rest ih =>
    have hrest := ih (h.step config m)
    rw [List.length_append, List.length_singleton, List.append_assoc, List.singleton_append]
      at hrest
    rw [List.zipIdx_cons, List.foldl_cons, hrest, issues_step config h m rest, List.flatMap_cons,
      List.flatMap_append, List.append_assoc]

end ModelScan

theorem scanTargets_eq_report {names : List (Text × Nat)} {models : List Model}
    (h : ∀ name, (names.lookup name).isSome = true ↔ name ∈ models.map (·.name))
    (entry : Model × Nat) :
    scanTargets config names entry = (unknownTargets models entry).flatMap config.report := by
  rw [unknownTargets, List.flatMap_map, flatMap_filter]
  refine List.flatMap_congr ?_
  intro f _
  by_cases hknown : f.type ∈ models.map (·.name)
  · rw [if_pos ((h f.type).2 hknown), if_neg (not_not_intro hknown)]
  · rw [if_neg (mt (h f.type).1 hknown), if_pos hknown]

/-- Validation reports the findings of the list, each as its configuration asks, and nothing else.
-/
theorem validate_eq_report (models : List Model) :
    validate models config = (findings models).flatMap config.report := by
  unfold validate findings
  by_cases hempty : models = []
  · subst hempty
    simp
  · have hissues := ModelScan.issues_foldl config ModelScan.knows_nil models
    have htargets : scanTargets config (models.zipIdx.foldl (ModelScan.step config) {}).names =
        fun entry => (unknownTargets models entry).flatMap config.report := by
      funext entry
      exact scanTargets_eq_report config (ModelScan.isSome_lookup_scan config models) entry
    rw [if_neg (by simpa using hempty), if_neg hempty, List.flatMap_append]
    dsimp only
    rw [htargets, ← List.flatMap_assoc]
    exact congrArg (· ++ _) hissues

end Scan

/-- Without codes to ignore or escalate, every finding is one issue. -/
theorem validate_eq_map_issue (models : List Model) :
    validate models {} = (findings models).map Finding.issue := by
  have hreport : ValidationConfig.report {} = fun finding => [finding.issue] := by
    funext finding
    simp [ValidationConfig.report, Finding.issue]
  rw [validate_eq_report, hreport, List.map_eq_flatMap]

private theorem flatMap_nil_fun {α β : Type} (xs : List α) :
    (xs.flatMap fun _ => ([] : List β)) = [] :=
  List.flatMap_eq_nil_iff.2 fun _ _ => rfl

section Codes

variable (models : List Model)

theorem code_of_mem_nameFindings {models : List Model} {entry : Model × Nat} {finding : Finding}
    (h : finding ∈ nameFindings models entry) :
    finding.code = ("E_MODEL_DUPLICATE_NAME" : Text) := by
  unfold nameFindings at h
  split at h
  · cases h
  · rw [List.mem_singleton.1 h]
    rfl

theorem code_of_mem_storageFindings {models : List Model} {entry : Model × Nat}
    {finding : Finding} (h : finding ∈ storageFindings models entry) :
    finding.code = ("E_MODEL_DUPLICATE_STORAGE_NAME" : Text) := by
  unfold storageFindings at h
  split at h
  · cases h
  · split at h
    · cases h
    · rw [List.mem_singleton.1 h]
      rfl

theorem code_of_mem_fieldFindings {entry : Model × Nat} {finding : Finding}
    (h : finding ∈ fieldFindings entry) :
    finding.code = ("E_FIELD_DUPLICATE_NAME" : Text) := by
  obtain ⟨f, -, rfl⟩ := List.mem_map.1 h
  rfl

theorem code_of_mem_unknownTargets {models : List Model} {entry : Model × Nat}
    {finding : Finding} (h : finding ∈ unknownTargets models entry) :
    finding.code = ("W_RELATION_TARGET_UNKNOWN" : Text) := by
  obtain ⟨f, -, rfl⟩ := List.mem_map.1 h
  rfl

/-- Of findings that share a code, a code keeps all or none. -/
theorem filter_code_of_forall {found : List Finding} {own : Text}
    (h : ∀ finding ∈ found, finding.code = own) (code : Text) :
    found.filter (·.code == code) = if own = code then found else [] := by
  by_cases heq : own = code
  · rw [if_pos heq, List.filter_eq_self]
    intro finding hfinding
    rw [h finding hfinding, heq, beq_self_eq_true]
  · rw [if_neg heq, List.filter_eq_nil_iff]
    intro finding hfinding hcode
    exact heq ((h finding hfinding).symm.trans (beq_iff_eq.1 hcode))

/-- The findings of a code other than that of an empty list. -/
theorem filter_code_findings {code : Text} (hcode : ("W_MODELS_EMPTY" : Text) ≠ code) :
    (findings models).filter (·.code == code) =
      (models.zipIdx.flatMap fun entry =>
        (if ("E_MODEL_DUPLICATE_NAME" : Text) = code then nameFindings models entry else []) ++
        (if ("E_MODEL_DUPLICATE_STORAGE_NAME" : Text) = code then storageFindings models entry
          else []) ++
        (if ("E_FIELD_DUPLICATE_NAME" : Text) = code then fieldFindings entry else [])) ++
      models.zipIdx.flatMap fun entry =>
        if ("W_RELATION_TARGET_UNKNOWN" : Text) = code then unknownTargets models entry
        else [] := by
  unfold findings
  by_cases hempty : models = []
  · subst hempty
    simp [Finding.code, hcode]
  · simp only [if_neg hempty, List.filter_append, List.filter_flatMap, ambiguities,
      filter_code_of_forall fun _ => code_of_mem_nameFindings,
      filter_code_of_forall fun _ => code_of_mem_storageFindings,
      filter_code_of_forall fun _ => code_of_mem_fieldFindings,
      filter_code_of_forall fun _ => code_of_mem_unknownTargets]

theorem nameFindings_eq (entry : Model × Nat) :
    nameFindings models entry =
      if entry.1.name ∈ (models.take entry.2).map (·.name) then
        [.duplicateModel entry.1.name ((models.map (·.name)).idxOf entry.1.name) entry.2]
      else [] := by
  unfold nameFindings
  cases hfirst : ((models.take entry.2).map (·.name)).findIdx? (· == entry.1.name) with
  | none =>
    have hnew := List.findIdx?_eq_none_iff.1 hfirst
    rw [if_neg]
    intro hold
    simpa using hnew _ hold
  | some first =>
    have hold : entry.1.name ∈ (models.take entry.2).map (·.name) := by
      have hsome := congrArg Option.isSome hfirst
      rw [List.findIdx?_isSome, Option.isSome_some, List.any_beq'] at hsome
      exact List.contains_iff_mem.1 hsome
    have htaken := (List.take_prefix entry.2 models).map (·.name)
    obtain ⟨-, hplace⟩ :=
      List.findIdx?_eq_some_iff_findIdx_eq.1 (htaken.findIdx?_eq_some hfirst)
    rw [if_pos hold, List.idxOf, hplace]

theorem flatMap_nameFindings :
    models.zipIdx.flatMap (nameFindings models) =
      (repeated (·.name) models).map fun entry =>
        .duplicateModel entry.1.name ((models.map (·.name)).idxOf entry.1.name) entry.2 := by
  rw [repeated, List.map_eq_flatMap, flatMap_filter]
  exact List.flatMap_congr fun entry _ => nameFindings_eq models entry

end Codes

/-- Validation is sound and complete for ambiguity, and names each cause once: there is no error
exactly when model names, storage names and the field names in each model are distinct; each place
whose model name occurs before it is reported once, so is each field whose name occurs before it in
its model, and so is each relation that leads to no name of the list. -/
theorem validate_reports_each_once (models : List Model) :
    (NoErrors (validate models {}) ↔
      (models.map (·.name)).Nodup ∧ (models.map (·.storageName)).Nodup ∧
        ∀ m ∈ models, (m.fields.map (·.name)).Nodup) ∧
    (validate models {}).filter (·.code == ("E_MODEL_DUPLICATE_NAME" : Text)) =
      ((repeated (·.name) models).map fun entry =>
        (Finding.duplicateModel entry.1.name ((models.map (·.name)).idxOf entry.1.name)
          entry.2).issue) ∧
    (validate models {}).filter (·.code == ("E_FIELD_DUPLICATE_NAME" : Text)) =
      (models.zipIdx.flatMap fun entry =>
        (repeated (·.name) entry.1.fields).map fun f =>
          (Finding.duplicateField entry.1.name f.1.name entry.2 f.2).issue) ∧
    (validate models {}).filter (·.code == ("W_RELATION_TARGET_UNKNOWN" : Text)) =
      models.zipIdx.flatMap fun entry =>
        (entry.1.relations.filter fun f => f.type ∉ models.map (·.name)).map fun f =>
          (Finding.unknownTarget entry.1.name f.name f.type entry.2).issue := by
  have hfilter : ∀ code : Text, (validate models {}).filter (·.code == code) =
      ((findings models).filter (·.code == code)).map Finding.issue := by
    intro code
    rw [validate_eq_map_issue, List.filter_map]
    rfl
  refine ⟨?_, ?_, ?_, ?_⟩
  · rw [← errorMessages_eq_nil_iff_noErrors, errorMessages_eq_nil_iff]
    exact ⟨fun h => ⟨h.names, h.storageNames, h.fieldNames⟩, fun h => ⟨h.1, h.2.1, h.2.2⟩⟩
  · rw [hfilter, filter_code_findings models (by decide)]
    simp +decide only [if_true, if_false, List.append_nil]
    rw [flatMap_nameFindings, flatMap_nil_fun, List.append_nil, List.map_map]
    rfl
  · rw [hfilter, filter_code_findings models (by decide)]
    simp +decide only [if_true, if_false, List.nil_append]
    rw [flatMap_nil_fun, List.append_nil, List.map_flatMap]
    simp only [fieldFindings, List.map_map, Function.comp_def]
  · rw [hfilter, filter_code_findings models (by decide)]
    simp +decide only [if_true, if_false, List.nil_append]
    rw [flatMap_nil_fun, List.nil_append, List.map_flatMap]
    simp only [unknownTargets, List.map_map, Function.comp_def]

end SchemaBook
