import RecordShape.CommandLine.Run
import RecordShape.Proofs.CommandLine.Written
import RecordShape.Proofs.Files.Listing
import RecordShape.Proofs.Files.Writing

/-!
# The verdict on fixture files

A run that checks files has one verdict and may write one report. Both say what the document of the
schema says of each file: the run passes if every file is accepted and no warning counts as a
failure, and the report has a result for each file, passed or not, whatever the verdict.
-/

namespace RecordShape

theorem toOption_eq_some_iff {ε α : Type} {x : Except ε α} {a : α} :
    x.toOption = some a ↔ x = .ok a := by
  cases x <;> simp [Except.toOption]

/-- Not merely a note that a reference leads back to a model that is being expanded. -/
def Diagnostic.IsWarning (d : Diagnostic) : Prop := d.code ≠ .cyclicReference

theorem Diagnostic.severity_eq_warning_iff {d : Diagnostic} :
    d.severity = .warning ↔ d.IsWarning := by
  unfold severity IsWarning
  cases d.code <;> decide

/-- A text that can be read, is JSON and is a value that the document describes. -/
def Accepts (document : ObjectShape) (text : Except FileError String) : Prop :=
  ∃ s j, text = .ok s ∧ Json.ofText s = .ok j ∧ document.accepts j.normalize = true

/-- A result gives the path of its file and whether the document accepts it, and shows what the
document finds if there is a value to look at. -/
structure TellsOf (document : ObjectShape) (file : String × Except FileError String)
    (result : Json) : Prop where
  path : result.member? "path" = some (.str file.1)
  valid : ∃ valid, result.member? "valid" = some (.bool valid) ∧
    (valid = true ↔ Accepts document file.2)
  faultless : result.flagAt "valid" = true ↔
    result.member? "issues" = none ∧ result.member? "error" = none
  found : ∀ s j, file.2 = .ok s → Json.ofText s = .ok j → result.member? "error" = none ∧
    result.itemsAt "issues" = (document.check j.normalize).issues.map Issue.toJson

/-- A report has a result for each file, in order, and counts them. -/
structure IsReportOn (document : ObjectShape) (files : List (String × Except FileError String))
    (report : Json) (results : List Json) (passed failed : Nat) : Prop where
  results_eq : report.member? "results" = some (.arr results)
  tells : List.Forall₂ (TellsOf document) files results
  documents_eq : report.member? "documents" = some (.ofNat results.length)
  passed_eq : report.member? "passed" = some (.ofNat passed)
  failed_eq : report.member? "failed" = some (.ofNat failed)
  total : passed + failed = results.length
  invalid : failed = results.countP fun result => !result.flagAt "valid"

theorem IsReportOn.exists_tellsOf {document : ObjectShape}
    {files : List (String × Except FileError String)} {report : Json} {results : List Json}
    {passed failed : Nat} {file : String × Except FileError String}
    (h : IsReportOn document files report results passed failed) (hfile : file ∈ files) :
    ∃ result ∈ results, TellsOf document file result := by
  have htells := h.tells
  clear h
  induction htells with
  | nil => cases hfile
  | cons htold _ ih =>
    rcases List.mem_cons.mp hfile with rfl | hfile
    · exact ⟨_, List.mem_cons_self, htold⟩
    · obtain ⟨result, hresult, htold⟩ := ih hfile
      exact ⟨result, List.mem_cons_of_mem _ hresult, htold⟩

namespace FileResult

theorem isValid_ofText_iff {document : ObjectShape} {path : String}
    {text : Except FileError String} :
    (ofText document path text).isValid = true ↔ Accepts document text := by
  constructor
  · intro h
    unfold isValid at h
    split at h
    · rename_i report houtcome
      obtain ⟨s, j, hs, hj, rfl⟩ := outcome_ofText_eq_ok_iff.mp houtcome
      exact ⟨s, j, hs, hj, h⟩
    · cases h
  · rintro ⟨s, j, hs, hj, haccepts⟩
    rw [isValid, outcome_ofText_eq_ok_iff.mpr ⟨s, j, hs, hj, rfl⟩]
    exact haccepts

theorem isValid_iff {r : FileResult} : r.isValid = true ↔ r.issues = [] ∧ r.error? = none := by
  unfold isValid issues error?
  cases r.outcome with
  | ok report => simp [Report.isValid]
  | error reason => simp

/-! ## The written result -/

theorem member?_toJson (r : FileResult) (key : String) : r.toJson.member? key =
    if key = "error" then r.error?.map .str
    else if key = "issues" then
      if r.issues = [] then none else some (.arr (r.issues.map Issue.toJson))
    else if key = "path" then some (.str r.path)
    else if key = "valid" then some (.bool r.isValid)
    else none := by
  unfold toJson Json.member?
  cases r.error? <;> cases r.issues <;> grind [KeyMap.find?]

theorem flagAt_valid (r : FileResult) : r.toJson.flagAt "valid" = r.isValid := by
  simp [Json.flagAt, member?_toJson]

theorem itemsAt_issues (r : FileResult) :
    r.toJson.itemsAt "issues" = r.issues.map Issue.toJson := by
  cases hissues : r.issues <;> simp [Json.itemsAt, member?_toJson, hissues, Json.array?]

theorem tellsOf_ofText (document : ObjectShape) (file : String × Except FileError String) :
    TellsOf document file (ofText document file.1 file.2).toJson where
  path := by simp [member?_toJson, ofText]
  valid := ⟨(ofText document file.1 file.2).isValid, by simp [member?_toJson], isValid_ofText_iff⟩
  faultless := by simp [flagAt_valid, isValid_iff, member?_toJson]
  found s j hs hj := by
    have houtcome : (ofText document file.1 file.2).outcome = .ok (document.check j.normalize) :=
      outcome_ofText_eq_ok_iff.mpr ⟨s, j, hs, hj, rfl⟩
    constructor
    · simp [member?_toJson, error?, houtcome]
    · rw [itemsAt_issues, issues, houtcome]

end FileResult

namespace CheckRun

variable {run : CheckRun} {files : List (String × Except FileError String)}

theorem failed_le (run : CheckRun) : run.failed ≤ run.results.length := List.length_filter_le _ _

theorem failed_eq_zero_iff
    (h : run.results = files.map fun f => FileResult.ofText run.document f.1 f.2) :
    run.failed = 0 ↔ ∀ f ∈ files, Accepts run.document f.2 := by
  rw [failed, List.length_eq_zero_iff, List.filter_eq_nil_iff, h, List.forall_mem_map]
  refine forall₂_congr fun f _ => ?_
  rw [← @FileResult.isValid_ofText_iff _ f.1, Bool.not_eq_true', Bool.not_eq_false]

theorem warningsFail_iff (run : CheckRun) : run.warningsFail = true ↔
    run.failOnWarnings = true ∧ ∃ d ∈ run.diagnostics.items, d.IsWarning := by
  simp only [warningsFail, Diagnostics.hasWarnings, Bool.and_eq_true, List.any_eq_true,
    decide_eq_true_eq, Diagnostic.severity_eq_warning_iff]

/-- The run passes if every file is accepted and no warning counts. -/
theorem exitCode_eq_zero_iff
    (h : run.results = files.map fun f => FileResult.ofText run.document f.1 f.2) :
    run.exitCode = 0 ↔ (∀ f ∈ files, Accepts run.document f.2) ∧
      ¬(run.failOnWarnings = true ∧ ∃ d ∈ run.diagnostics.items, d.IsWarning) := by
  rw [exitCode, ← failed_eq_zero_iff h, ← warningsFail_iff]
  split_ifs with hpass
  · simpa using hpass
  · simpa using hpass

theorem exitCode_eq_zero_or_one (run : CheckRun) : run.exitCode = 0 ∨ run.exitCode = 1 := by
  unfold exitCode
  split_ifs
  · exact .inl rfl
  · exact .inr rfl

theorem isReportOn_report
    (h : run.results = files.map fun f => FileResult.ofText run.document f.1 f.2) (time : String) :
    IsReportOn run.document files (run.report time) (run.results.map FileResult.toJson)
      (run.results.length - run.failed) run.failed where
  results_eq := by simp [report, Json.member?, KeyMap.find?]
  tells := by
    rw [h, List.map_map, List.forall₂_map_right_iff, List.forall₂_same]
    exact fun f _ => FileResult.tellsOf_ofText run.document f
  documents_eq := by simp [report, Json.member?, KeyMap.find?]
  passed_eq := by simp [report, Json.member?, KeyMap.find?]
  failed_eq := by simp [report, Json.member?, KeyMap.find?]
  total := by rw [List.length_map, Nat.sub_add_cancel run.failed_le]
  invalid := by
    rw [List.countP_map, failed, ← List.countP_eq_length_filter]
    exact List.countP_congr fun r _ => by simp [FileResult.flagAt_valid]

end CheckRun

namespace CheckCommand

/-- The options of the configuration, but for a depth that is asked for. -/
def options (c : CheckCommand) (config : Config) : CompileOptions :=
  match c.maxDepth with
  | none => config.compiler
  | some depth => { config.compiler with maxDepth := depth }

/-- The document that is asked for. -/
def document (c : CheckCommand) (config : Config) (schema : Schema) : Compiled ObjectShape :=
  if c.isPartial then schema.partialDocument (c.options config)
  else schema.fullDocument (c.options config)

theorem compiled_eq_document (c : CheckCommand) (config : Config) (schema : Schema) :
    (let options := { config.compiler with maxDepth := c.maxDepth.getD config.compiler.maxDepth }
     if c.isPartial then schema.partialDocument options else schema.fullDocument options) =
      c.document config schema := by
  unfold document options
  cases c.maxDepth <;> rfl

end CheckCommand

namespace Command

variable {around : Surroundings} {configFile : Option String} {c : CheckCommand} {config : Config}
  {schema : Schema}

theorem loadSchema_eq_ok {look : Look} {path text : String}
    (htext : look path >>= FileTree.text = .ok text) (hschema : Schema.ofText text = .ok schema) :
    loadSchema look path = .ok schema := by
  rw [loadSchema, htext]
  exact congrArg (Except.mapError _) hschema

theorem exists_run_check
    (hconfig : Config.load around.toSources configFile = .ok config)
    (hschema : loadSchema around.look c.schema = .ok schema) :
    ∃ action, run around ⟨configFile, .check c⟩ = .ok action ∧
      action.exitCode = (CheckRun.ofCommand around.look config schema c).exitCode ∧
      action.save.map (fun save => (save.path, save.text)) = c.report.map fun path =>
        (path, config.output.format.render
          ((CheckRun.ofCommand around.look config schema c).report around.time)) := by
  have hrun : run around ⟨configFile, .check c⟩ = runCheck around config c := by
    rw [run, hconfig]
    rfl
  rw [hrun, runCheck, hschema]
  cases c.report with
  | none => exact ⟨_, rfl, rfl, rfl⟩
  | some path => exact ⟨_, rfl, rfl, rfl⟩

end Command

namespace Outcome

variable {system : FileSystem} {action : Action}

theorem ofAction_of_save_eq_none (h : action.save = none) :
    (ofAction system action).exitCode = action.exitCode := by
  rw [ofAction, h]

theorem ofAction_of_write {save : Save} {written : FileSystem} (h : action.save = some save)
    (hwritten : system.write save.path save.text = .ok written) :
    (ofAction system action).exitCode = action.exitCode ∧
      (ofAction system action).tree = written := by
  rw [ofAction, h]
  simp only [hwritten, and_self]

variable {user : Option String} {environment : List (String × String)} {arguments : List String}
  {configFile : Option String} {c : CheckCommand} {config : Config} {schema : Schema}

theorem ofArguments_of_run {time : String} {invocation : Invocation}
    (harguments : Invocation.ofArguments arguments = .ok invocation)
    (hrun : Command.run { look := system.look, user, environment, time } invocation = .ok action) :
    ofArguments system user environment time arguments = ofAction system action := by
  simp only [ofArguments, harguments, hrun]

/-- Checking ends with the verdict of the run, and the report is found where it is asked for. -/
theorem ofArguments_check (time : String)
    (harguments : Invocation.ofArguments arguments = .ok ⟨configFile, .check c⟩)
    (hconfig : Config.load { look := system.look, user, environment } configFile = .ok config)
    (hschema : Command.loadSchema system.look c.schema = .ok schema)
    (hreport : ∀ path ∈ c.report, ∃ text written, system.write path text = .ok written) :
    let run := CheckRun.ofCommand system.look config schema c
    let outcome := ofArguments system user environment time arguments
    outcome.exitCode = run.exitCode ∧ ∀ path ∈ c.report,
      outcome.tree.read path = .ok (config.output.format.render (run.report time)) := by
  intro run outcome
  obtain ⟨action, hrun, hexit, hsave⟩ := @Command.exists_run_check
    { look := system.look, user, environment, time } configFile c config schema hconfig hschema
  have houtcome : outcome = ofAction system action := ofArguments_of_run harguments hrun
  rw [houtcome, ← hexit]
  cases hasked : c.report with
  | none =>
    rw [hasked, Option.map_none, Option.map_eq_none_iff] at hsave
    exact ⟨ofAction_of_save_eq_none hsave, fun path hpath => by cases hpath⟩
  | some path =>
    rw [hasked, Option.map_some, Option.map_eq_some_iff] at hsave
    obtain ⟨save, hsaved, hsave⟩ := hsave
    obtain ⟨hpath, htext⟩ := Prod.mk.inj hsave
    obtain ⟨text, written, hwrite⟩ := hreport path hasked
    obtain ⟨written, hwrite⟩ := FileSystem.exists_write hwrite save.text
    rw [← hpath] at hwrite
    obtain ⟨hsame, htree⟩ := ofAction_of_write hsaved hwrite
    refine ⟨hsame, fun path' hpath' => ?_⟩
    obtain rfl : path = path' := Option.some.inj hpath'
    rw [htree, ← hpath, FileSystem.read_of_write hwrite, htext]

/-- A run that checks files passes if the document that is asked for accepts every file that is
asked for, unless a warning counts. The report that is found where it was asked for is read as a
value with a result for each of these files. -/
theorem check_agrees_with_document (time : String)
    (harguments : Invocation.ofArguments arguments = .ok ⟨configFile, .check c⟩)
    (hconfig : Config.load { look := system.look, user, environment } configFile = .ok config)
    (hschema : ∃ text, system.read c.schema = .ok text ∧ Schema.ofText text = .ok schema)
    (hreport : ∀ path ∈ c.report, ∃ text written, system.write path text = .ok written) :
    let document := c.document config schema
    let outcome := ofArguments system user environment time arguments
    ∃ files, StandFor system.look c.data files ∧
      (outcome.exitCode = 0 ↔ (∀ f ∈ files, Accepts document.value f.2) ∧
        ¬(config.output.failOnWarnings = true ∧ ∃ d ∈ document.diagnostics, d.IsWarning)) ∧
      (outcome.exitCode = 0 ∨ outcome.exitCode = 1) ∧
      ∀ path ∈ c.report, ∃ text report results passed failed,
        outcome.tree.read path = .ok text ∧ text = config.output.format.render report ∧
        (HaveWordSizes files → Json.ofText text = .ok report) ∧
        IsReportOn document.value files report results passed failed := by
  intro document outcome
  let run := CheckRun.ofCommand system.look config schema c
  have hdocument : run.document = document.value :=
    congrArg Compiled.value (c.compiled_eq_document config schema)
  have hdiagnostics : run.diagnostics.items = document.diagnostics :=
    congrArg Compiled.diagnostics (c.compiled_eq_document config schema)
  have hresults : run.results = (c.data.flatMap (dataFiles system.look)).map
      fun f => FileResult.ofText run.document f.1 f.2 := rfl
  obtain ⟨text, htext, hschema⟩ := hschema
  have hloaded := Command.loadSchema_eq_ok htext hschema
  obtain ⟨hexit, hread⟩ := ofArguments_check time harguments hconfig hloaded hreport
  refine ⟨_, standFor_dataFiles system.look c.data, ?_, ?_, fun path hpath => ?_⟩
  · rw [hexit, ← hdocument, ← hdiagnostics]
    exact CheckRun.exitCode_eq_zero_iff hresults
  · rw [hexit]
    exact run.exitCode_eq_zero_or_one
  · have hon := CheckRun.isReportOn_report hresults time
    rw [hdocument] at hon
    exact ⟨_, _, _, _, _, hread path hpath, rfl,
      fun hsizes => run.ofText_render_report hresults hsizes _ time, hon⟩

/-- The text of a fixture that breaks off. -/
def brokenText : String := "\x7b\"Tag\": ["

def tagText : String := "\x7b\"Tag\": [\x7b\"name\": \"new\"\x7d]\x7d"

def tagSchema : String :=
  "\x7b\"models\": \x7b\"Tag\": \x7b\"type\": \"object\", \"required\": [\"name\"]\x7d\x7d\x7d"

def tagFixtures : List (String × FileTree) :=
  [("notes.txt", .file "to do"), ("older", .folder [("a.json", .file brokenText)]),
    ("tags.json", .file tagText)]

/-- The fixtures lie beside the folder that the program works in. -/
def tagSystem : FileSystem where
  root := .folder [("reports", .folder []), ("shared", .folder tagFixtures),
    ("work", .folder [("schema.json", .file tagSchema)])]
  workplace := ["work"]

def tagCheck : CheckCommand :=
  { schema := "schema.json", data := ["../shared"], isPartial := true, maxDepth := some 2
    report := some "/reports/tags.json" }

def tagArguments : List String :=
  ["check", "-s", "schema.json", "--partial", "--max-depth=2", "-r", "/reports/tags.json",
    "../shared"]

theorem look_tagFixtures : tagSystem.look "../shared" = .ok (.folder tagFixtures) := by
  have hnames : FilePath.names "../shared" = ["..", "shared"] := by decide
  have hplace : tagSystem.root.walk (tagSystem.start "../shared") ["..", "shared"] =
      .ok ["shared"] := toOption_eq_some_iff.mp (by decide +kernel)
  rw [FileSystem.look, hnames, hplace]
  rfl

theorem isTidy_tagFixtures : (FileTree.folder tagFixtures).IsTidy := by
  refine .folder (by decide) fun name node h => ?_
  simp only [tagFixtures, List.mem_cons, Prod.mk.injEq, List.not_mem_nil, or_false] at h
  rcases h with ⟨rfl, rfl⟩ | ⟨rfl, rfl⟩ | ⟨rfl, rfl⟩
  · exact .file _
  · refine .folder (by decide) fun name node h => ?_
    cases List.mem_singleton.mp h
    exact .file _
  · exact .file _

theorem ofText_brokenText : (Json.ofText brokenText).toOption = none := by decide +kernel

theorem ofText_tagText : (Json.ofText tagText).toOption =
    some (.obj [("Tag", .arr [.obj [("name", .str "new")]])]) := by
  decide +kernel

theorem not_accepts_brokenText (document : ObjectShape) : ¬Accepts document (.ok brokenText) := by
  rintro ⟨s, j, hs, hj, -⟩
  obtain rfl := Except.ok.inj hs
  rw [← toOption_eq_some_iff] at hj
  cases ofText_brokenText.symm.trans hj

theorem accepts_tagText (hschema : Schema.ofText tagSchema = .ok schema) :
    Accepts (schema.partialDocument { maxDepth := 2 }).value (.ok tagText) := by
  have haccepts : (Schema.ofText tagSchema).toOption.map (fun schema =>
      (schema.partialDocument { maxDepth := 2 }).value.accepts
        (Json.obj [("Tag", .arr [.obj [("name", .str "new")]])]).normalize) = some true := by
    decide +kernel
  rw [hschema] at haccepts
  exact ⟨tagText, _, rfl, toOption_eq_some_iff.mp ofText_tagText, Option.some.inj haccepts⟩

theorem hasWordLengths_of_tagFixtures {names : List String} {node : FileTree} {s : String}
    {j : Json} (hfile : (FileTree.folder tagFixtures).HasFile names node) (hs : node.text = .ok s)
    (hj : Json.ofText s = .ok j) : j.normalize.HasWordLengths := by
  have hnotes : (Json.ofText "to do").toOption = none := by decide +kernel
  have hmem : (names, node) ∈ [(["notes.txt"], FileTree.file "to do"),
      (["older", "a.json"], .file brokenText), (["tags.json"], .file tagText)] :=
    FileTree.mem_files_iff.mpr hfile
  rw [← toOption_eq_some_iff] at hj
  simp only [List.mem_cons, Prod.mk.injEq, List.not_mem_nil, or_false] at hmem
  rcases hmem with ⟨-, rfl⟩ | ⟨-, rfl⟩ | ⟨-, rfl⟩ <;> cases hs
  · cases hnotes.symm.trans hj
  · cases ofText_brokenText.symm.trans hj
  · cases ofText_tagText.symm.trans hj
    refine .obj (List.forall_mem_singleton.mpr (.arr (by decide) ?_))
    exact List.forall_mem_singleton.mpr (.obj (List.forall_mem_singleton.mpr (.str _)))

theorem haveWordSizes_tagFixtures {files : List (String × Except FileError String)}
    (h : StandFor tagSystem.look ["../shared"] files) : HaveWordSizes files := by
  cases h with
  | file hfile => cases look_tagFixtures.symm.trans hfile
  | unreadable herror =>
    rcases herror with herror | herror <;> cases look_tagFixtures.symm.trans herror
  | folder hfolder hfound hrest =>
    cases look_tagFixtures.symm.trans hfolder
    cases hrest
    rw [List.append_nil]
    constructor
    · have hfew : (FileTree.folder tagFixtures).files.length = 3 := rfl
      have hle := hfound.length_le isTidy_tagFixtures
      rw [List.length_map]
      exact IsWord.of_le (by decide) (hle.trans_eq hfew)
    · intro f hf s j hs hj
      obtain ⟨⟨names, node⟩, hmem, rfl⟩ := List.mem_map.mp hf
      exact hasWordLengths_of_tagFixtures ((hfound.mem_iff names node).mp hmem).1 hs hj

theorem mem_of_standFor_tagFixtures {files : List (String × Except FileError String)}
    (h : StandFor tagSystem.look ["../shared"] files) :
    ("../shared/older/a.json", .ok brokenText) ∈ files ∧
      ("../shared/tags.json", .ok tagText) ∈ files := by
  have hbroken : (FileTree.folder tagFixtures).HasFile ["older", "a.json"] (.file brokenText) :=
    .folder (List.mem_cons_of_mem _ List.mem_cons_self) (.folder List.mem_cons_self (.file _))
  have htags : (FileTree.folder tagFixtures).HasFile ["tags.json"] (.file tagText) :=
    .folder (List.mem_cons_of_mem _ (List.mem_cons_of_mem _ List.mem_cons_self)) (.file _)
  have hstem : "a" ≠ "" ∧ "tags" ≠ "" := by decide
  have hpath (inner : String) :
      "../shared" ++ (if "../shared".endsWith "/" then "" else "/") ++ inner =
        "../shared/" ++ inner := by
    rw [if_neg (by decide +kernel)]
    rfl
  have hmem := h.mem_of_hasFile (List.mem_singleton_self _) look_tagFixtures hbroken hstem.1 rfl
  have hmem' := h.mem_of_hasFile (List.mem_singleton_self _) look_tagFixtures htags hstem.2 rfl
  rw [hpath] at hmem hmem'
  exact ⟨hmem, hmem'⟩

theorem exists_write_tags :
    ∃ text written, tagSystem.write "/reports/tags.json" text = .ok written := by
  have hwritten : (tagSystem.write "/reports/tags.json" "").toOption.isSome = true := by
    decide +kernel
  obtain ⟨written, hwritten⟩ := Option.isSome_iff_exists.mp hwritten
  exact ⟨"", written, toOption_eq_some_iff.mp hwritten⟩

/-- The run fails because of the older fixture, and the report is written nevertheless. -/
theorem check_agrees_with_document_tags :
    Invocation.ofArguments tagArguments = .ok ⟨none, .check tagCheck⟩ ∧
    Config.load { look := tagSystem.look } none = .ok {} ∧
    (∃ text written, tagSystem.write "/reports/tags.json" text = .ok written) ∧
    tagSystem.read "schema.json" = .ok tagSchema ∧
    ∃ schema, Schema.ofText tagSchema = .ok schema ∧
      (ofArguments tagSystem none [] "" tagArguments).exitCode = 1 ∧
      ∃ files text report results passed failed,
        StandFor tagSystem.look ["../shared"] files ∧
        (ofArguments tagSystem none [] "" tagArguments).tree.read "/reports/tags.json" = .ok text ∧
        Json.ofText text = .ok report ∧
        IsReportOn (schema.partialDocument { maxDepth := 2 }).value files report results passed
          failed ∧
        (∃ result ∈ results, result.member? "path" = some (.str "../shared/tags.json") ∧
          result.member? "valid" = some (.bool true)) ∧
        ∃ result ∈ results, result.member? "path" = some (.str "../shared/older/a.json") ∧
          result.member? "valid" = some (.bool false) := by
  have harguments : Invocation.ofArguments tagArguments = .ok ⟨none, .check tagCheck⟩ :=
    toOption_eq_some_iff.mp (by decide +kernel)
  have hconfig : Config.load { look := tagSystem.look } none = .ok {} :=
    toOption_eq_some_iff.mp (by decide +kernel)
  have hread : tagSystem.read "schema.json" = .ok tagSchema :=
    toOption_eq_some_iff.mp (by decide +kernel)
  have hschema : (Schema.ofText tagSchema).toOption.isSome = true := by decide +kernel
  obtain ⟨schema, hschema⟩ := Option.isSome_iff_exists.mp hschema
  rw [toOption_eq_some_iff] at hschema
  have hasked : ∀ path ∈ tagCheck.report,
      ∃ text written, tagSystem.write path text = .ok written := by
    intro path hpath
    obtain rfl : "/reports/tags.json" = path := Option.some.inj hpath
    exact exists_write_tags
  obtain ⟨files, hfiles, hpass, hexit, hwritten⟩ :=
    check_agrees_with_document "" harguments hconfig ⟨tagSchema, hread, hschema⟩ hasked
  obtain ⟨text, report, results, passed, failed, hfound, -, htext, hon⟩ :=
    hwritten "/reports/tags.json" rfl
  obtain ⟨hbroken, htags⟩ := mem_of_standFor_tagFixtures hfiles
  refine ⟨harguments, hconfig, exists_write_tags, hread, schema, hschema,
    hexit.resolve_left fun hzero => ?_, files, text, report, results, passed, failed, hfiles,
    hfound, htext (haveWordSizes_tagFixtures hfiles), hon, ?_, ?_⟩
  · exact not_accepts_brokenText _ ((hpass.mp hzero).1 _ hbroken)
  · obtain ⟨result, hresult, htold⟩ := hon.exists_tellsOf htags
    obtain ⟨valid, hvalid, haccepted⟩ := htold.valid
    rw [haccepted.mpr (accepts_tagText hschema)] at hvalid
    exact ⟨result, hresult, htold.path, hvalid⟩
  · obtain ⟨result, hresult, htold⟩ := hon.exists_tellsOf hbroken
    obtain ⟨valid, hvalid, haccepted⟩ := htold.valid
    rw [Bool.eq_false_iff.mpr fun h => not_accepts_brokenText _ (haccepted.mp h)] at hvalid
    exact ⟨result, hresult, htold.path, hvalid⟩

end Outcome
end RecordShape
