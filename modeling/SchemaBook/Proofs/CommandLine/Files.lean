import Mathlib.Data.List.DropRight
import SchemaBook.CommandLine.Run
import SchemaBook.Proofs.Book.Writing
import SchemaBook.Proofs.Loader.FileTree
import SchemaBook.Proofs.Text.Utf8
import SchemaBook.Yaml.Reader

/-!
The files that the command leaves, whatever reader of YAML it runs with. All that can fail before
the document is there leaves the tree alone, and a write that is refused changes no file. The file
is emptied before the document is encoded, though, so a document without octets costs the text that
was there. Main statement: this is the only way in which a run that fails changes a file.
-/

namespace SchemaBook

theorem Text.trimEnd_endedLine (text : Text) : trimEnd (endedLine text) = trimEnd text := by
  have hreverse : (endedLine text).reverse =
      .char '\n' :: text.reverse.dropWhile CodePoint.isBlank := by
    simp [endedLine, trimEnd, ofString, ofChars]
  have hlineFeed : CodePoint.isBlank (.char '\n') = true := by decide
  rw [trimEnd, hreverse, List.dropWhile_cons_of_pos hlineFeed, List.dropWhile_idempotent, trimEnd]

/-- A document ends in one line feed, so nothing is cut off or added when it is written. -/
theorem endedLine_of_writeDocument {models : List Model} {config : Entries} {document : Text}
    (h : writeDocument models config = .ok document) : Text.endedLine document = document := by
  obtain ⟨parts, rfl⟩ : ∃ parts, document = Text.endedLine parts := by
    rcases hprepared : prepareModels models with fault | prepared
    · rw [writeDocument, hprepared] at h
      cases h
    · rw [writeDocument, hprepared, mapError_eq_ok_iff, writeBook] at h
      rcases hwritten : (buildChapters prepared).describedChapters.mapM writeChapter with
        _ | written
      · rw [hwritten] at h
        cases h
      · rw [hwritten] at h
        exact ⟨_, (Except.ok.inj h).symm⟩
  rw [Text.endedLine, Text.trimEnd_endedLine, Text.endedLine]

section Reader

variable (read : YamlReader Value)

/-- The arguments and the schema file ask for a document at a path. -/
def AsksFor (arguments : List Text) (tree : FileTree) (out : FilePath) (document : Text) : Prop :=
  ∃ options source target schema, Arguments.parse arguments = .ok options ∧
    options.schema = some source ∧ options.out = some target ∧ FilePath.ofText target = out ∧
    (loadModels read (FilePath.ofText source).text (tree.lookup (FilePath.ofText source))).result =
      .ok schema ∧
    writeDocument schema.models (titledConfig schema.config options.title) = .ok document

variable {read} in
/-- There is one document to be written, and one path for it. -/
theorem AsksFor.unique {arguments : List Text} {tree : FileTree} {out other : FilePath}
    {document text : Text} (h : AsksFor read arguments tree out document)
    (hother : AsksFor read arguments tree other text) : out = other ∧ document = text := by
  obtain ⟨options, source, target, schema, hparsed, hsource, htarget, rfl, hloaded, hdocument⟩ := h
  obtain ⟨options', source', target', schema', hparsed', hsource', htarget', rfl, hloaded',
    hdocument'⟩ := hother
  obtain rfl : options = options' := Except.ok.inj (hparsed.symm.trans hparsed')
  obtain rfl : source = source' := Option.some.inj (hsource.symm.trans hsource')
  obtain rfl : target = target' := Option.some.inj (htarget.symm.trans htarget')
  obtain rfl : schema = schema' := Except.ok.inj (hloaded.symm.trans hloaded')
  exact ⟨rfl, Except.ok.inj (hdocument.symm.trans hdocument')⟩

/-- A failure other than that of a document without octets. -/
def Ending.IsOtherFailure (ending : Ending) : Prop :=
  ending ≠ .exit 0 ∧ ∀ fault, ending ≠ .fault (.write (.encoding fault))

/-- What a run of the command comes to. -/
inductive RunOutcome (arguments : List Text) (tree : FileTree) : CommandRun → Prop where
  | helped {stderr : List Text} (help : Arguments.parse arguments = .error .help) :
      RunOutcome arguments tree ⟨tree, stderr, .exit 0⟩
  | failed {reached : FileTree} {stderr : List Text} {ending : Ending}
      (files : tree.SameFiles reached) (failure : ending.IsOtherFailure) :
      RunOutcome arguments tree ⟨reached, stderr, ending⟩
  | emptied {reached : FileTree} {stderr : List Text} {out : FilePath} {document : Text}
      {key : List Text} {fault : Text.EncodeFault} (asks : AsksFor read arguments tree out document)
      (encoding : Text.encodeUtf8 document = .error fault)
      (writes : tree.WritesAt reached out key []) :
      RunOutcome arguments tree ⟨reached, stderr, .fault (.write (.encoding fault))⟩
  | written {reached : FileTree} {stderr : List Text} {out : FilePath} {document : Text}
      {key : List Text} {octets : List UInt8} (asks : AsksFor read arguments tree out document)
      (encoding : Text.encodeUtf8 document = .ok octets)
      (writes : tree.WritesAt reached out key octets) :
      RunOutcome arguments tree ⟨reached, stderr, .exit 0⟩

theorem ArgumentStop.isOtherFailure {stop : ArgumentStop} (h : stop ≠ .help) :
    stop.ending.IsOtherFailure := by
  cases stop with
  | help => exact absurd rfl h
  | misuse message => simp [ending, Ending.IsOtherFailure]

/-- The report on a schema that was read plans a stop that is a failure, or the document of the
schema. -/
theorem reportOn_plan (options : Options) (schema : Schema) :
    (∃ ending, (reportOn options schema).plan = .stop ending ∧ ending.IsOtherFailure) ∨
      ∃ document, (reportOn options schema).plan = .write document ∧
        writeDocument schema.models (titledConfig schema.config options.title) = .ok document := by
  unfold reportOn
  dsimp only
  split
  case isTrue => exact .inl ⟨_, rfl, by simp [Ending.IsOtherFailure]⟩
  case isFalse =>
    split
    case h_1 document hdocument => exact .inr ⟨document, rfl, hdocument⟩
    case h_2 => exact .inl ⟨_, rfl, by simp [Ending.IsOtherFailure]⟩

theorem report_plan (options : Options) (look : FilePath → PathState) :
    (∃ ending, (report read options look).plan = .stop ending ∧ ending.IsOtherFailure) ∨
      ∃ source schema document, (report read options look).plan = .write document ∧
        options.schema = some source ∧
        (loadModels read (FilePath.ofText source).text (look (FilePath.ofText source))).result =
          .ok schema ∧
        writeDocument schema.models (titledConfig schema.config options.title) = .ok document := by
  unfold report
  rcases options.schema with _ | source
  · exact .inl ⟨_, rfl, by simp [Ending.IsOtherFailure]⟩
  · rcases hloaded : (loadModels read (FilePath.ofText source).text
      (look (FilePath.ofText source))).result with fault | schema
    · refine .inl ⟨.fault (.load fault), ?_, by simp [Ending.IsOtherFailure]⟩
      simp [hloaded]
    · simp only [Option.map_some, hloaded]
      rcases reportOn_plan options schema with hstop | ⟨document, hplan, hdocument⟩
      · exact .inl hstop
      · exact .inr ⟨source, schema, document, hplan, rfl, hloaded, hdocument⟩

theorem runCommand_outcome (arguments : List Text) (tree : FileTree) :
    RunOutcome read arguments tree (runCommand read arguments tree) := by
  unfold runCommand
  rcases hparsed : Arguments.parse arguments with stop | options
  · by_cases hhelp : stop = .help
    · subst hhelp
      exact .helped hparsed
    · exact .failed (.refl tree) (ArgumentStop.isOtherFailure hhelp)
  · dsimp only
    rcases report_plan read options tree.lookup with ⟨ending, hplan, hfailure⟩ |
      ⟨source, schema, document, hplan, hsource, hloaded, hdocument⟩
    · rw [hplan]
      exact .failed (.refl tree) hfailure
    · rw [hplan]
      rcases hout : options.out with _ | target
      · exact .failed (.refl tree) (by simp [Ending.IsOtherFailure])
      · dsimp only
        have hasks : AsksFor read arguments tree (FilePath.ofText target) document :=
          ⟨options, source, target, schema, hparsed, hsource, hout, rfl, hloaded, hdocument⟩
        -- The line feed at its end is there already, so the document itself is what is written.
        have houtcome := tree.writeText_outcome (FilePath.ofText target) document
        rw [endedLine_of_writeDocument hdocument] at houtcome
        generalize tree.writeText (FilePath.ofText target) document = outcome at houtcome ⊢
        cases houtcome with
        | refused files isOther =>
          exact .failed files (by simpa [Ending.IsOtherFailure] using isOther)
        | emptied writes encoding => exact .emptied hasks encoding writes
        | written writes encoding => exact .written hasks encoding writes

/-- A run that fails leaves all files as they were, and a run that does not fail leaves the document
that it is asked for, and all other files as they were. -/
structure IsAllOrNothing (arguments : List Text) (tree : FileTree) (run : CommandRun) : Prop where
  nothing : run.ending ≠ .exit 0 → tree.SameFiles run.tree
  all : run.ending = .exit 0 →
    Arguments.parse arguments = .error .help ∧ run.tree = tree ∨
      ∃ out document key octets, AsksFor read arguments tree out document ∧
        Text.encodeUtf8 document = .ok octets ∧
        Text.decodeUtf8 (octets.map UInt8.toNat) = .ok document ∧
        tree.WritesAt run.tree out key octets

namespace RunOutcome

variable {read} {arguments : List Text} {tree : FileTree} {run : CommandRun}

theorem isAllOrNothing (h : RunOutcome read arguments tree run)
    (hencoded : ∀ fault, run.ending ≠ .fault (.write (.encoding fault))) :
    IsAllOrNothing read arguments tree run := by
  cases h with
  | helped help => exact ⟨fun hfailure => absurd rfl hfailure, fun _ => .inl ⟨help, rfl⟩⟩
  | failed files failure => exact ⟨fun _ => files, fun hexit => absurd hexit failure.1⟩
  | emptied asks encoding writes => exact absurd rfl (hencoded _)
  | written asks encoding writes =>
    have hdecoded := Text.decodeUtf8_of_encodeUtf8 encoding
    exact ⟨fun hfailure => absurd rfl hfailure,
      fun _ => .inr ⟨_, _, _, _, asks, encoding, hdecoded, writes⟩⟩

/-- A document without octets leaves its file empty. -/
theorem emptied_of_ending (h : RunOutcome read arguments tree run) {fault : Text.EncodeFault}
    (hending : run.ending = .fault (.write (.encoding fault))) :
    ∃ out document key, AsksFor read arguments tree out document ∧
      Text.encodeUtf8 document = .error fault ∧ tree.WritesAt run.tree out key [] := by
  cases h with
  | helped help => cases hending
  | failed files failure => exact absurd hending (failure.2 fault)
  | emptied asks encoding writes =>
    cases hending
    exact ⟨_, _, _, asks, encoding, writes⟩
  | written asks encoding writes => cases hending

end RunOutcome

/-- A run is all or nothing for the files unless the document that it is asked for has no octets and
its file was not there before, or was not empty: such a run leaves the file empty and all others as
they were. In particular it is all or nothing where the document holds no half of a surrogate pair.
-/
theorem runCommand_allOrNothing_iff (arguments : List Text) (tree : FileTree) :
    (IsAllOrNothing read arguments tree (runCommand read arguments tree) ↔
        ∀ fault, (runCommand read arguments tree).ending = .fault (.write (.encoding fault)) →
          ∃ out document key, AsksFor read arguments tree out document ∧
            (runCommand read arguments tree).tree.place out = .found key (.file []) ∧
            tree.HasFile key []) ∧
      (∀ fault, (runCommand read arguments tree).ending = .fault (.write (.encoding fault)) →
        ∃ out document key, AsksFor read arguments tree out document ∧
          Text.encodeUtf8 document = .error fault ∧
          tree.WritesAt (runCommand read arguments tree).tree out key []) ∧
      ((∀ out document, AsksFor read arguments tree out document →
          ∀ c ∈ document, c.isHalf = false) →
        IsAllOrNothing read arguments tree (runCommand read arguments tree)) := by
  have houtcome := runCommand_outcome read arguments tree
  refine ⟨⟨?_, ?_⟩, fun fault hending => houtcome.emptied_of_ending hending, ?_⟩
  · intro h fault hending
    obtain ⟨out, document, key, hasks, -, hwrites⟩ := houtcome.emptied_of_ending hending
    have hfiles := h.nothing (by simp [hending])
    exact ⟨out, document, key, hasks, hwrites.found, (hfiles key []).2 hwrites.hasFile⟩
  · intro hempty
    by_cases hencoded : ∃ fault,
        (runCommand read arguments tree).ending = .fault (.write (.encoding fault))
    · obtain ⟨fault, hending⟩ := hencoded
      obtain ⟨out, document, key, hasks, hfound, hbefore⟩ := hempty fault hending
      obtain ⟨other, text, place, hother, -, hwrites⟩ := houtcome.emptied_of_ending hending
      obtain ⟨rfl, rfl⟩ := hasks.unique hother
      rw [hwrites.found] at hfound
      cases hfound
      constructor
      · exact fun _ => hwrites.sameFiles hbefore
      · intro hexit
        rw [hending] at hexit
        cases hexit
    · exact houtcome.isAllOrNothing (not_exists.1 hencoded)
  · intro hwhole
    refine houtcome.isAllOrNothing fun fault hending => ?_
    obtain ⟨out, document, -, hasks, hfault, -⟩ := houtcome.emptied_of_ending hending
    obtain ⟨octets, hoctets⟩ := Text.exists_encodeUtf8_ok_iff.2 (hwhole out document hasks)
    rw [hfault] at hoctets
    cases hoctets

end Reader

def octetsOfAscii (s : String) : List UInt8 := s.toList.map fun c => c.toNat.toUInt8

/-- A schema file whose one model is named by half of a surrogate pair, and a document from before.
-/
def halfNamed : FileTree where
  workingDirectory := ["work"]
  nodes := [(["work", "schema.yaml"], .file (octetsOfAscii "models:\n  - name: \"\\ud800\"\n")),
    (["work", "ERD.md"], .file (octetsOfAscii "# Ledger\n"))]

/-- The file system does not wait for the text to be encoded: the document from before is lost. -/
theorem not_all_allOrNothing :
    ¬∀ (arguments : List Text) (tree : FileTree),
      IsAllOrNothing Yaml.reader arguments tree (runCommand Yaml.reader arguments tree) := by
  intro h
  have hrun : (runCommand Yaml.reader ["--schema", "schema.yaml"] halfNamed).ending.ctorIdx ≠
      (Ending.exit 0).ctorIdx ∧
      (runCommand Yaml.reader ["--schema", "schema.yaml"] halfNamed).tree.node?
        ["work", "ERD.md"] = some (.file []) := by
    decide +kernel
  have hfiles := (h ["--schema", "schema.yaml"] halfNamed).nothing fun hexit =>
    hrun.1 (congrArg Ending.ctorIdx hexit)
  have hbefore : halfNamed.node? ["work", "ERD.md"] = some (.file []) :=
    (hfiles ["work", "ERD.md"] []).2 hrun.2
  exact absurd hbefore (by decide)

end SchemaBook
