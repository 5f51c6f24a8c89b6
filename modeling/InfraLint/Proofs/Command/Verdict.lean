import InfraLint.Proofs.Command.Hindered
import InfraLint.Proofs.Command.JsonFlag

/-!
Verdicts of runs. The exit code, the words of the text and the word `ok` of the JSON all tell the
number of findings, or of failed outcomes, that stand in the data of the JSON. Nothing that a run
writes depends on the settings of the log. Only with a path that is not UTF-8 the run with JSON
fails where the other does not.
-/
namespace InfraLint

def Json.itemsUnder (key : String) : Json → List Json
  | .object members =>
    match members.lookup key with
    | some (.array items) => items
    | _ => []
  | _ => []

namespace Command

variable {table : Text.PropertyTable} {files : Files} {policy : Policy} {action : Action}
  {data : Json} {i : Invocation}

/-! What the data of a run counts -/

def reportedFindings (data : Json) : Nat :=
  ((data.itemsUnder "files").flatMap (Json.itemsUnder "findings")).length

def evaluatedOutcomes : Json → List Json
  | .array resources => resources.flatMap (Json.itemsUnder "outcomes")
  | _ => []

def isFailed : Json → Bool
  | .object members =>
    match members.lookup "result" with
    | some (.string result) => result = "FAILED"
    | _ => false
  | _ => false

def failedOutcomes (data : Json) : Nat := (evaluatedOutcomes data).countP isFailed

/-- How much of what has been found speaks against the sources or resources. -/
def faults : Action → Json → Nat
  | .audit .., data => reportedFindings data
  | _, data => failedOutcomes data

def auditSummary (audit : Audit) (rules : RuleSet) (total : Nat) : String :=
  if total = 0 then "\n✓ " ++ audit.wording.success ++ "\n"
  else "\nTotal " ++ audit.wording.total ++ " issues: " ++ toString total ++ "\n\n" ++
    Report.unlines (audit.guidelines rules)

def evaluationSummary (failed evaluated : Nat) : String :=
  if failed = 0 then "\nOK: " ++ toString evaluated ++ " checks passed\n"
  else "\nFAILED: " ++ toString failed ++ " of " ++ toString evaluated ++ " checks failed\n"

def summary (rules : RuleSet) (action : Action) (data : Json) : String :=
  match action with
  | .audit audit _ _ => auditSummary audit rules (reportedFindings data)
  | _ => evaluationSummary (failedOutcomes data) (evaluatedOutcomes data).length

theorem unlines_nil : Report.unlines [] = "" := rfl

theorem unlines_cons (line : String) (lines : List String) :
    Report.unlines (line :: lines) = line ++ "\n" ++ Report.unlines lines := by
  unfold Report.unlines
  cases lines with
  | nil => simp
  | cons next lines =>
    rw [List.map_cons, List.map_cons, String.intercalate_cons_cons, String.append_empty]

theorem unlines_append (front back : List String) :
    Report.unlines (front ++ back) = Report.unlines front ++ Report.unlines back := by
  induction front with
  | nil => simp [Report.unlines]
  | cons line front ih => simp only [List.cons_append, unlines_cons, ih, String.append_assoc]

theorem reportedFindings_toJson (report : Report) :
    reportedFindings report.toJson = report.total := by
  have file (f : FileReport) : (Report.fileJson f).itemsUnder "findings" =
      f.findings.map Report.findingJson := rfl
  have files : report.toJson.itemsUnder "files" = report.map Report.fileJson := rfl
  rw [reportedFindings, files, List.flatMap_map, Report.total, Report.findings]
  simp only [file, ← List.map_flatMap, List.length_map]

theorem evaluatedOutcomes_toJson (results : List ResourceOutcomes) :
    evaluatedOutcomes (.array (results.map resourceJson)) =
      (results.flatMap (·.outcomes)).map outcomeJson := by
  have resource (r : ResourceOutcomes) : (resourceJson r).itemsUnder "outcomes" =
      r.outcomes.map outcomeJson := rfl
  simp only [evaluatedOutcomes, List.flatMap_map, resource, ← List.map_flatMap]

theorem failedOutcomes_toJson (results : List ResourceOutcomes) :
    failedOutcomes (.array (results.map resourceJson)) = failedCount results := by
  have failed (o : Outcome) : isFailed (outcomeJson o) = !o.passed := by
    obtain ⟨id, name, passed⟩ := o
    cases passed <;> rfl
  rw [failedOutcomes, evaluatedOutcomes_toJson, List.countP_map, List.countP_congr
    (fun o _ => by rw [Function.comp_apply, failed o]), List.countP_eq_length_filter,
    List.filter_flatMap]
  rfl

theorem summaryLines_unlines (audit : Audit) (rules : RuleSet) (report : Report) :
    Report.unlines (Report.summaryLines audit rules report) =
      auditSummary audit rules report.total := by
  have passed : report.passed = true ↔ report.total = 0 := by simp [Report.passed]
  by_cases none : report.total = 0
  · rw [Report.summaryLines, if_pos (passed.mpr none), auditSummary, if_pos none]
    simp only [unlines_cons, unlines_nil, ← String.append_assoc, String.reduceAppend,
      String.append_empty]
  · rw [Report.summaryLines, if_neg (mt passed.mp none), auditSummary, if_neg none,
      unlines_append]
    simp only [unlines_cons, unlines_nil, ← String.append_assoc, String.reduceAppend,
      String.append_empty]
    simp only [String.append_assoc, String.reduceAppend]

theorem text_ends (audit : Audit) (rules : RuleSet) (report : Report) :
    ∃ front, report.text audit rules = front ++ auditSummary audit rules report.total := by
  refine ⟨Report.unlines (report.flatMap (Report.fileLines audit)), ?_⟩
  rw [Report.text, unlines_append, summaryLines_unlines]

theorem evaluationText_ends (results : List ResourceOutcomes) :
    ∃ front, evaluationText results =
      front ++ evaluationSummary (failedCount results) (evaluatedCount results) := by
  refine ⟨Report.unlines (results.flatMap resourceLines), ?_⟩
  rw [evaluationText, unlines_append, evaluationSummary]
  simp only [unlines_cons, unlines_nil, String.append_empty]
  congr 1
  split
  · simp only [← String.append_assoc, String.reduceAppend]
    simp only [String.append_assoc, String.reduceAppend]
  · simp only [← String.append_assoc, String.reduceAppend]
    simp only [String.append_assoc, String.reduceAppend]

/-! What a run comes to -/

theorem known_iff {checks : List String} :
    checks.find? (fun id => (Catalogue.builtin.get? id).isNone) = none ↔
      ∀ id ∈ checks, ∃ check ∈ Catalogue.builtin, check.id = id := by
  simp [Catalogue.get?, List.find?_eq_none]

theorem runInvocation_unusable (unusable : UnusableRules table files.tree i.rules) :
    ∃ message, runInvocation table i files = .failure message := by
  cases inUse : policyFor table files.tree i.rules with
  | error e => exact ⟨e.full, by simp only [runInvocation, inUse]⟩
  | ok policy => exact absurd unusable (usable_iff.mp ⟨policy, inUse⟩)

theorem runInvocation_undoable (undoable : Undoable files i.action)
    (judges : i.action.judges = true) :
    ∃ message, runInvocation table i files = .failure message := by
  cases inUse : policyFor table files.tree i.rules with
  | error e => exact ⟨e.full, by simp only [runInvocation, inUse]⟩
  | ok policy =>
    simp only [runInvocation, inUse]
    have nothing : ¬ ∃ data, Finds policy files i.action data :=
      fun finds => (finds_iff policy judges).mp finds undoable
    cases action : i.action with
    | audit audit listed base =>
      rw [action] at nothing
      simp only [runAudit]
      cases found : sources files listed base with
      | error e => exact ⟨_, rfl⟩
      | ok paths =>
        cases done : audit.run policy files.tree paths with
        | error e => exact ⟨_, by simp only [done]; rfl⟩
        | ok report => exact absurd ⟨_, .audit found done⟩ nothing
    | evaluate path checks =>
      rw [action] at nothing
      simp only [runEvaluate]
      cases asked : checks.find? (fun id => (Catalogue.builtin.get? id).isNone) with
      | some id => exact ⟨_, rfl⟩
      | none =>
        cases loaded : Plan.ofPath files.tree path with
        | error e => exact ⟨_, rfl⟩
        | ok plan => exact absurd ⟨_, .evaluate (known_iff.mp asked) loaded⟩ nothing
    | checks => simp [action, Action.judges] at judges
    | rules => simp [action, Action.judges] at judges

theorem runInvocation_text (inUse : policyFor table files.tree i.rules = .ok policy)
    (finds : Finds policy files i.action data) (text : i.json = false) :
    ∃ front, runInvocation table i files = .done (faults i.action data = 0)
      (front ++ summary policy.rules i.action data) := by
  obtain ⟨given, json, action⟩ := i
  obtain rfl : json = false := text
  simp only [runInvocation, inUse]
  cases finds with
  | @audit audit listed paths base report found done =>
    obtain ⟨front, ends⟩ := text_ends audit policy.rules report
    refine ⟨front, ?_⟩
    simp [runAudit, found, done, faults, summary, reportedFindings_toJson, ends, Report.passed]
  | @evaluate path checks plan known loaded =>
    obtain ⟨front, ends⟩ := evaluationText_ends (plan.evaluate Catalogue.builtin policy checks)
    refine ⟨front, ?_⟩
    simp only [runEvaluate, known_iff.mpr known, loaded, faults, summary, failedOutcomes_toJson,
      evaluatedOutcomes_toJson, List.length_map, ends]
    rfl

theorem runInvocation_json (inUse : policyFor table files.tree i.rules = .ok policy)
    (finds : Finds policy files i.action data) (json : i.json = true) :
    (¬ Unwritable files i.action → runInvocation table i files =
      .done (faults i.action data = 0) (jsonOut (faults i.action data = 0) data)) ∧
    (Unwritable files i.action → ∃ message, runInvocation table i files = .failure message) := by
  obtain ⟨given, isJson, action⟩ := i
  obtain rfl : isJson = true := json
  simp only [runInvocation, inUse]
  cases finds with
  | @audit audit listed paths base report found done =>
    simp only [runAudit, found, done, Bool.not_true, Bool.false_eq_true, if_false]
    constructor
    · intro writable
      rw [if_pos ((isWritable_iff found done).mpr writable)]
      simp only [faults, reportedFindings_toJson, Report.passed]
    · intro unwritable
      rw [if_neg (fun written => (isWritable_iff found done).mp written unwritable)]
      exact ⟨_, rfl⟩
  | @evaluate path checks plan known loaded =>
    constructor
    · intro writable
      simp only [runEvaluate, known_iff.mpr known, loaded, faults, failedOutcomes_toJson]
      rfl
    · intro unwritable
      cases unwritable

variable {arguments : List String} {environment : List (String × String)}

theorem run_twice (asked : invocation arguments = .ok i) (twice : Settings.Twice environment)
    (table : Text.PropertyTable) (files : Files) :
    ∃ message, run table arguments environment files = ⟨2, "", message⟩ := by
  obtain ⟨name, settings⟩ := Settings.ofEnvironment_twice twice
  refine ⟨"Invalid environment configuration: " ++ Settings.duplicateMessage name ++ "\n", ?_⟩
  simp only [run, asked, settings]

theorem run_foreign (asked : invocation arguments = .ok i)
    (foreign : Settings.Foreign environment) :
    run table arguments environment files = .panic := by
  simp only [run, asked, Settings.ofEnvironment_foreign foreign]

theorem run_usable (asked : invocation arguments = .ok i)
    (usable : Settings.Usable environment) :
    run table arguments environment files = runInvocation table i files := by
  obtain ⟨s, settings⟩ := Settings.ofEnvironment_usable usable
  simp only [run, asked, settings]

structure Judged (rules : RuleSet) (files : Files) (action : Action) (data : Json)
    (text json : Result) : Prop where
  passed : text.code = 0 ↔ faults action data = 0
  failed : text.code = 1 ↔ faults action data ≠ 0
  ends : ∃ front, text.out = front ++ summary rules action data
  document : ¬ Unwritable files action → json.code = text.code ∧
    json.out = (Json.object [("ok", .bool (json.code = 0)), ("data", data)]).print ++ "\n"
  unwritten : Unwritable files action → json.code = 2 ∧ json.out = ""

/-- What one and the same run comes to with text and with JSON. -/
structure Agree (table : Text.PropertyTable) (environment : List (String × String))
    (files : Files) (i : Invocation) (text json : Result) : Prop where
  panics : text.code = 101 ↔ Settings.Foreign environment
  undone : text.code = 2 ↔
    ¬ Settings.Foreign environment ∧ Hindered table environment files i
  silent : text.code = 101 ∨ text.code = 2 →
    json.code = text.code ∧ text.out = "" ∧ json.out = ""
  judged : ¬ (text.code = 101 ∨ text.code = 2) → ∃ policy data,
    policyFor table files.tree i.rules = .ok policy ∧ Finds policy files i.action data ∧
      Judged policy.rules files i.action data text json

theorem agree_panic (foreign : Settings.Foreign environment) :
    Agree table environment files i .panic .panic where
  panics := iff_of_true rfl foreign
  undone := iff_of_false (by decide) fun undone => undone.1 foreign
  silent _ := ⟨rfl, rfl, rfl⟩
  judged done := absurd (.inl rfl) done

theorem agree_undone (known : ¬ Settings.Foreign environment)
    (hindered : Hindered table environment files i) (message message' : String) :
    Agree table environment files i ⟨2, "", message⟩ ⟨2, "", message'⟩ where
  panics := iff_of_false (by simp) known
  undone := iff_of_true rfl ⟨known, hindered⟩
  silent _ := ⟨rfl, rfl, rfl⟩
  judged done := absurd (.inr rfl) done

theorem done_code (count : Nat) (out : String) :
    (Result.done (count = 0) out).code = if count = 0 then 0 else 1 := by
  simp [Result.done]

theorem done_judged (rules : RuleSet) (action : Action) (data : Json) (front : String)
    {json : Result}
    (document : ¬ Unwritable files action →
      json = .done (faults action data = 0) (jsonOut (faults action data = 0) data))
    (unwritten : Unwritable files action → ∃ message, json = .failure message) :
    Judged rules files action data
      (.done (faults action data = 0) (front ++ summary rules action data)) json where
  passed := by rw [done_code]; split <;> simp_all
  failed := by rw [done_code]; split <;> simp_all
  ends := ⟨front, rfl⟩
  document writable := by
    have same : (if faults action data = 0 then 0 else 1) = 0 ↔ faults action data = 0 := by simp
    rw [document writable]
    simp only [done_code, same]
    exact ⟨trivial, rfl⟩
  unwritten odd := by
    obtain ⟨message, rfl⟩ := unwritten odd
    exact ⟨rfl, rfl⟩

theorem agree_done (usable : Settings.Usable environment) (judges : i.action.judges = true)
    (inUse : policyFor table files.tree i.rules = .ok policy)
    (finds : Finds policy files i.action data) {front : String} {json : Result}
    (judged : Judged policy.rules files i.action data
      (.done (faults i.action data = 0) (front ++ summary policy.rules i.action data)) json) :
    Agree table environment files i
      (.done (faults i.action data = 0) (front ++ summary policy.rules i.action data)) json := by
  obtain ⟨once, known⟩ := Settings.usable_iff.mp usable
  have free : ¬ Hindered table environment files i := by
    intro hindered
    cases hindered with
    | settings twice => exact once twice
    | rules unusable => exact Command.usable_iff.mp ⟨policy, inUse⟩ unusable
    | action undoable => exact (finds_iff policy judges).mp ⟨data, finds⟩ undoable
  have small (out : String) : (Result.done (faults i.action data = 0) out).code < 2 := by
    rw [done_code]
    split <;> decide
  have done := small (front ++ summary policy.rules i.action data)
  constructor
  · exact iff_of_false (by omega) known
  · exact iff_of_false (by omega) fun undone => free undone.2
  · exact fun stopped => absurd stopped (by omega)
  · exact fun _ => ⟨policy, data, inUse, finds, judged⟩

/- Rules and action decide it, by cases: each of them fails both runs, or neither. -/
theorem runInvocation_agree (usable : Settings.Usable environment)
    (judges : i.action.judges = true) (table : Text.PropertyTable) (files : Files) :
    Agree table environment files i (runInvocation table { i with json := false } files)
      (runInvocation table { i with json := true } files) := by
  let plain : Invocation := { i with json := false }
  let wrapped : Invocation := { i with json := true }
  have known := (Settings.usable_iff.mp usable).2
  by_cases unusable : UnusableRules table files.tree i.rules
  · obtain ⟨message, text⟩ : ∃ m, runInvocation table plain files = .failure m :=
      runInvocation_unusable unusable
    obtain ⟨message', json⟩ : ∃ m, runInvocation table wrapped files = .failure m :=
      runInvocation_unusable unusable
    rw [text, json]
    exact agree_undone known (.rules unusable) _ _
  by_cases undoable : Undoable files i.action
  · obtain ⟨message, text⟩ : ∃ m, runInvocation table plain files = .failure m :=
      runInvocation_undoable undoable judges
    obtain ⟨message', json⟩ : ∃ m, runInvocation table wrapped files = .failure m :=
      runInvocation_undoable undoable judges
    rw [text, json]
    exact agree_undone known (.action undoable) _ _
  obtain ⟨policy, inUse⟩ := usable_iff.mpr unusable
  obtain ⟨data, finds⟩ := (finds_iff policy judges).mpr undoable
  obtain ⟨front, text⟩ := runInvocation_text (i := plain) inUse finds rfl
  obtain ⟨document, unwritten⟩ := runInvocation_json (i := wrapped) inUse finds rfl
  rw [text]
  exact agree_done usable judges inUse finds (done_judged _ _ _ front document unwritten)

theorem run_agree {plain wrapped : List String} (judges : i.action.judges = true)
    (askedPlain : invocation plain = .ok { i with json := false })
    (askedWrapped : invocation wrapped = .ok { i with json := true }) :
    Agree table environment files i (run table plain environment files)
      (run table wrapped environment files) := by
  by_cases foreign : Settings.Foreign environment
  · rw [run_foreign askedPlain foreign, run_foreign askedWrapped foreign]
    exact agree_panic foreign
  by_cases twice : Settings.Twice environment
  · obtain ⟨message, text⟩ := run_twice askedPlain twice table files
    obtain ⟨message', json⟩ := run_twice askedWrapped twice table files
    rw [text, json]
    exact agree_undone foreign (.settings twice) _ _
  · have usable := Settings.usable_iff.mpr ⟨twice, foreign⟩
    rw [run_usable askedPlain usable, run_usable askedWrapped usable]
    exact runInvocation_agree usable judges table files

/-- With the flag for JSON and without it, a judging run comes to one verdict. It fails exactly if
something keeps it from being done; otherwise its code, its summary and the word `ok` tell what the
data counts. The settings of the log change nothing of it. A variable that is no text ends every
run, and a path that is not UTF-8 only the run with JSON. -/
theorem runs_agree (asked : invocation arguments = .ok i) (judges : i.action.judges = true) :
    invocation (withoutJson arguments) = .ok { i with json := false } ∧
    invocation ("--json" :: withoutJson arguments) = .ok { i with json := true } ∧
    ∀ table environment files,
      (∀ plain wrapped, invocation plain = .ok { i with json := false } →
        invocation wrapped = .ok { i with json := true } →
          Agree table environment files i (run table plain environment files)
            (run table wrapped environment files)) ∧
      ∀ other, Settings.Usable environment → Settings.Usable other →
        (run table arguments other files).out = (run table arguments environment files).out ∧
          (run table arguments other files).code =
            (run table arguments environment files).code := by
  refine ⟨invocation_withoutJson asked, invocation_withJson asked, ?_⟩
  intro table environment files
  constructor
  · exact fun _ _ askedPlain askedWrapped => run_agree judges askedPlain askedWrapped
  · intro other usable usable'
    rw [run_usable asked usable, run_usable asked usable']
    exact ⟨rfl, rfl⟩

/- A vault without tags, and a variable that sets the log. -/
def vaultTree : Entry :=
  .directory [("main.tf", .file (some "resource \"azurerm_key_vault\" \"v\" \x7b\x7d\n"))]

def logVariables : List (String × String) := [("IAC_POLICY_LOG_LEVEL", "debug")]

theorem vaultTree_found : Audit.run .standard .tags vaultTree ["main.tf"] =
    .ok [⟨"main.tf", [⟨.missingTags, "azurerm_key_vault.v",
      "Resource 'azurerm_key_vault.v' is missing tags block"⟩]⟩] := by
  decide +kernel

theorem vaultTree_refused :
    (run Text.noProperties ["tags", "main.tf"] logVariables { tree := vaultTree }).code = 1 ∧
      (run Text.noProperties ["--json", "tags", "main.tf"] logVariables
        { tree := vaultTree }).code = 1 ∧
      ∃ front rules, (run Text.noProperties ["tags", "main.tf"] logVariables
        { tree := vaultTree }).out = front ++ auditSummary .tags rules 1 := by
  have asked : invocation ["tags", "main.tf"] =
      .ok ⟨none, false, .audit .tags ["main.tf"] "."⟩ := rfl
  have askedJson : invocation ["--json", "tags", "main.tf"] =
      .ok ⟨none, true, .audit .tags ["main.tf"] "."⟩ := rfl
  have agree := ((runs_agree asked rfl).2.2 Text.noProperties logVariables
    { tree := vaultTree }).1 _ _ asked askedJson
  have inUse : policyFor Text.noProperties vaultTree none = .ok .standard := policyFor_default
  have found : sources { tree := vaultTree } ["main.tf"] "." = .ok ["main.tf"] := rfl
  have finds := @Finds.audit .standard { tree := vaultTree } .tags _ _ "." _ found vaultTree_found
  have usable : Settings.Usable logVariables := ⟨by decide +kernel, by decide +kernel⟩
  obtain ⟨once, known⟩ := Settings.usable_iff.mp usable
  have done : ¬ ((run Text.noProperties ["tags", "main.tf"] logVariables
      { tree := vaultTree }).code = 101 ∨ (run Text.noProperties ["tags", "main.tf"] logVariables
      { tree := vaultTree }).code = 2) := by
    rw [agree.panics, agree.undone, not_or]
    refine ⟨known, fun ⟨_, hindered⟩ => ?_⟩
    cases hindered with
    | settings twice => exact once twice
    | rules unusable => exact usable_iff.mp ⟨_, inUse⟩ unusable
    | action undoable => exact (finds_iff .standard rfl).mp ⟨_, finds⟩ undoable
  obtain ⟨policy, data, used, finds, judged⟩ := agree.judged done
  obtain rfl := Except.ok.inj (inUse.symm.trans used)
  cases finds with
  | audit listed reported =>
    obtain rfl := Except.ok.inj (found.symm.trans listed)
    have utf8 := (isWritable_iff found vaultTree_found).mp (by decide +kernel)
    obtain rfl := Except.ok.inj (vaultTree_found.symm.trans reported)
    obtain ⟨front, ends⟩ := judged.ends
    simp only [summary, reportedFindings_toJson] at ends
    have refused := judged.failed.mpr (by rw [faults, reportedFindings_toJson]; decide)
    exact ⟨refused, (judged.document utf8).1.trans refused, front, _, ends⟩

theorem run_default {json : Bool} {audit : Audit} {listed : List String} {base : String}
    (asked : invocation arguments = .ok ⟨none, json, .audit audit listed base⟩) :
    run table arguments [] files = runAudit .standard json audit files listed base := by
  have usable : Settings.Usable [] := ⟨.nil, nofun⟩
  simp only [run_usable asked usable, runInvocation, policyFor_default]

/- A source whose name has a byte that belongs to no character. -/
def oddName : String := "\x00ÿ.tf"

def oddFiles : Files where
  tree := .directory [(oddName, .file (some ""))]

/-- The flag for JSON makes a difference for such a name. A variable with such a byte ends the run,
and a source that does not exist is passed over though it cannot be read. -/
theorem oddName_disagrees :
    (run Text.noProperties ["naming", oddName] [] oddFiles).code = 0 ∧
      (run Text.noProperties ["--json", "naming", oddName] [] oddFiles).code = 2 ∧
      (run Text.noProperties ["naming"] [("HOME", "\x00ÿ")] { tree := .empty }).code = 101 ∧
      Entry.empty.read "gone.tf" = .error .notFound ∧
      (run Text.noProperties ["naming", "gone.tf"] [] { tree := .empty }).code = 0 := by
  have text : run Text.noProperties ["naming", oddName] [] oddFiles =
      runAudit .standard false .naming oddFiles [oddName] "." := run_default rfl
  have json : run Text.noProperties ["--json", "naming", oddName] [] oddFiles =
      runAudit .standard true .naming oddFiles [oddName] "." := run_default rfl
  have gone : run Text.noProperties ["naming", "gone.tf"] [] { tree := .empty } =
      runAudit .standard false .naming { tree := .empty } ["gone.tf"] "." := run_default rfl
  have foreign : Settings.Foreign [("HOME", "\x00ÿ")] := by
    refine ⟨?_, _, List.mem_cons_self, by decide +kernel⟩
    rw [Settings.Twice]
    decide +kernel
  have asked : invocation ["naming"] = .ok ⟨none, false, .audit .naming [] "."⟩ := rfl
  rw [text, json, gone, run_foreign asked foreign]
  decide +kernel

end Command
end InfraLint
