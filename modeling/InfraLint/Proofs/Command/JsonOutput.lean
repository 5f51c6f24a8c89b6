import InfraLint.Proofs.Command.Verdict
import InfraLint.Proofs.Json.Printed

/-!
What a run writes as JSON, read back. The text is one document on lines of its own, and its data
tells the whole report: every path, every resource and every finding or outcome, in order and
with all their characters.
-/
namespace InfraLint

/-! Reports and outcomes -/

def FindingKind.ofLabel? (label : String) : Option FindingKind :=
  [resourceNaming, genericName, nameValue, missingTags, missingTagsDefinition, missingRequiredTag,
    incorrectProjectTag, tagsVariableDefault].find? (·.label = label)

def Finding.ofJson? (j : Json) : Option Finding := do
  let kind ← FindingKind.ofLabel? (← j.textAt? "kind")
  return ⟨kind, ← j.textAt? "subject", ← j.textAt? "message"⟩

def FileReport.ofJson? (j : Json) : Option FileReport := do
  return ⟨← j.textAt? "path", ← (← j.memberAt? "findings").listOf? Finding.ofJson?⟩

def Report.ofJson? (j : Json) : Option Report := do
  (← j.memberAt? "files").listOf? FileReport.ofJson?

def Outcome.ofJson? (j : Json) : Option Outcome := do
  let passed ← match ← j.textAt? "result" with
    | "PASSED" => some true
    | "FAILED" => some false
    | _ => none
  return ⟨← j.textAt? "check_id", ← j.textAt? "check_name", passed⟩

def ResourceOutcomes.ofJson? (j : Json) : Option ResourceOutcomes := do
  return ⟨← j.textAt? "address", ← (← j.memberAt? "outcomes").listOf? Outcome.ofJson?⟩

theorem FindingKind.ofLabel?_label (kind : FindingKind) : ofLabel? kind.label = some kind := by
  cases kind <;> decide

theorem Finding.ofJson?_ordered (f : Finding) :
    ofJson? (Report.findingJson f).ordered = some f := by
  rw [ofJson?, Report.findingJson, Json.textAt?_ordered "kind" f.kind.label,
    Json.textAt?_ordered "subject" f.subject,
    Json.textAt?_ordered "message" f.message]
  · simp [FindingKind.ofLabel?_label]
  all_goals simp

theorem FileReport.ofJson?_ordered (file : FileReport) :
    ofJson? (Report.fileJson file).ordered = some file := by
  rw [ofJson?, Report.fileJson, Json.textAt?_ordered "path" file.path,
    Json.memberAt?_ordered "findings" (.array (file.findings.map Report.findingJson))]
  · simp [Json.listOf?_ordered Finding.ofJson?_ordered]
  all_goals simp

theorem Report.ofJson?_ordered (report : Report) : ofJson? report.toJson.ordered = some report := by
  rw [ofJson?, toJson, Json.memberAt?_ordered "files" (.array (report.map fileJson))]
  · exact Json.listOf?_ordered FileReport.ofJson?_ordered report
  all_goals simp

theorem Outcome.ofJson?_ordered (o : Outcome) :
    ofJson? (Command.outcomeJson o).ordered = some o := by
  rw [ofJson?, Command.outcomeJson, Json.textAt?_ordered "result" o.result,
    Json.textAt?_ordered "check_id" o.checkId,
    Json.textAt?_ordered "check_name" o.checkName]
  · obtain ⟨id, name, passed⟩ := o
    cases passed <;> rfl
  all_goals simp

theorem ResourceOutcomes.ofJson?_ordered (r : ResourceOutcomes) :
    ofJson? (Command.resourceJson r).ordered = some r := by
  rw [ofJson?, Command.resourceJson, Json.textAt?_ordered "address" r.address,
    Json.memberAt?_ordered "outcomes" (.array (r.outcomes.map Command.outcomeJson))]
  · simp [Json.listOf?_ordered Outcome.ofJson?_ordered]
  all_goals simp

/-! Values without numbers -/

section Textual
open Json

variable {room : Nat}

theorem textual_strings {members : List (String × Json)}
    (each : ∀ m ∈ members, ∃ s, m.2 = .string s) : Textual (room + 1) (.object members) := by
  refine .object fun m member => ?_
  obtain ⟨s, same⟩ := each m member
  exact same ▸ .string s

theorem textual_array {α : Type} {encode : α → Json} (each : ∀ a, Textual room (encode a))
    (as : List α) : Textual (room + 1) (.array (as.map encode)) := by
  refine .array fun j member => ?_
  obtain ⟨a, _, rfl⟩ := List.mem_map.mp member
  exact each a

theorem textual_finding (f : Finding) : Textual (room + 1) (Report.findingJson f) :=
  textual_strings (by simp)

theorem textual_file (file : FileReport) : Textual (room + 3) (Report.fileJson file) := by
  refine .object fun m member => ?_
  simp only [List.mem_cons, List.not_mem_nil, or_false] at member
  rcases member with rfl | rfl
  · exact .string _
  · exact textual_array textual_finding _

theorem textual_report (report : Report) : Textual (room + 5) report.toJson := by
  refine .object fun m member => ?_
  obtain rfl := List.mem_singleton.mp member
  exact textual_array textual_file _

theorem textual_outcome (o : Outcome) : Textual (room + 1) (Command.outcomeJson o) :=
  textual_strings (by simp)

theorem textual_resource (r : ResourceOutcomes) : Textual (room + 3) (Command.resourceJson r) := by
  refine .object fun m member => ?_
  simp only [List.mem_cons, List.not_mem_nil, or_false] at member
  rcases member with rfl | rfl
  · exact .string _
  · exact textual_array textual_outcome _

end Textual

namespace Command

variable {table : Text.PropertyTable} {files : Files} {policy : Policy} {action : Action}
  {i : Invocation} {arguments : List String} {environment : List (String × String)}

def resultsOf? (data : Json) : Option (List ResourceOutcomes) :=
  data.listOf? ResourceOutcomes.ofJson?

/-- The data tells the report of an audit, or the outcomes for a plan, and leaves nothing out. -/
inductive Tells (policy : Policy) (files : Files) : Action → Json → Prop where
  | audit {audit : Audit} {listed paths : List String} {base : String} {report : Report}
      {data : Json} (found : sources files listed base = .ok paths)
      (done : audit.run policy files.tree paths = .ok report)
      (told : Report.ofJson? data = some report) :
      Tells policy files (.audit audit listed base) data
  | evaluate {path : String} {checks : List String} {plan : Plan} {data : Json}
      (loaded : Plan.ofPath files.tree path = .ok plan)
      (told : resultsOf? data = some (plan.evaluate Catalogue.builtin policy checks)) :
      Tells policy files (.evaluate path checks) data

theorem tells_of_finds {data : Json} (finds : Finds policy files action data) :
    Tells policy files action data.ordered := by
  cases finds with
  | audit found done => exact .audit found done (Report.ofJson?_ordered _)
  | evaluate known loaded =>
    exact .evaluate loaded (Json.listOf?_ordered ResourceOutcomes.ofJson?_ordered _)

theorem textual_of_finds {data : Json} (finds : Finds policy files action data) (room : Nat) :
    Json.Textual (room + 5) data := by
  cases finds with
  | audit found done => exact textual_report _
  | evaluate known loaded =>
    have each (r : ResourceOutcomes) : Json.Textual (room + 4) (resourceJson r) :=
      textual_resource r
    exact textual_array each _

/-- Data under the word whether all is well. -/
theorem read_document {ok : Bool} {data : Json} (textual : ∀ room, Json.Textual (room + 5) data) :
    Json.read (Json.object [("ok", .bool ok), ("data", data)]).print =
      .ok (.object [("data", data.ordered), ("ok", .bool ok)]) := by
  have whole : Json.Textual Json.deepest (.object [("ok", .bool ok), ("data", data)]) := by
    refine .object fun m member => ?_
    simp only [List.mem_cons, List.not_mem_nil, or_false] at member
    rcases member with rfl | rfl
    · exact .bool ok
    · exact textual 121
  have none : Json.Reader.AllWhite [] := by simp [Json.Reader.AllWhite]
  have read := Json.read_printed whole none
  rw [List.append_nil] at read
  exact read

theorem document_bounds (ok : Bool) (data : Json) :
    (Json.object [("ok", .bool ok), ("data", data)]).print.toList.head? = some '\x7b' ∧
      (Json.object [("ok", .bool ok), ("data", data)]).print.toList.getLast? = some '\x7d' := by
  simp only [Json.print, Json.printAt, String.toList_ofList]
  exact ⟨rfl, List.getLast?_concat⟩

/-- A run with JSON that is done writes one document and a line feed. The document reads back as
the word whether all is well, which the exit code tells too, and the data of the run. -/
theorem json_output_reads_back (asked : invocation arguments = .ok i)
    (judges : i.action.judges = true) (json : i.json = true)
    (done : (run table arguments environment files).code = 0 ∨
      (run table arguments environment files).code = 1) :
    ∃ policy document data, policyFor table files.tree i.rules = .ok policy ∧
      (run table arguments environment files).out = document ++ "\n" ∧
      document.toList.head? = some '\x7b' ∧ document.toList.getLast? = some '\x7d' ∧
      Json.read document = .ok
        (.object [("data", data),
          ("ok", .bool ((run table arguments environment files).code = 0))]) ∧
      Tells policy files i.action data := by
  have same : { i with json := true } = i := by rw [← json]
  have askedWrapped : invocation arguments = .ok { i with json := true } := by rw [same, asked]
  have agree : Agree table environment files i (run table (withoutJson arguments) environment files)
      (run table arguments environment files) :=
    run_agree judges (invocation_withoutJson asked) askedWrapped
  have goes : ¬ ((run table (withoutJson arguments) environment files).code = 101 ∨
      (run table (withoutJson arguments) environment files).code = 2) := by
    intro stopped
    have code := (agree.silent stopped).1
    omega
  obtain ⟨policy, data, inUse, finds, judged⟩ := agree.judged goes
  have writable : ¬ Unwritable files i.action := by
    intro unwritable
    have code := (judged.unwritten unwritable).1
    omega
  have document := (judged.document writable).2
  obtain ⟨front, back⟩ :=
    document_bounds ((run table arguments environment files).code = 0) data
  exact ⟨policy, _, data.ordered, inUse, document, front, back,
    read_document (textual_of_finds finds), tells_of_finds finds⟩

/- The label runs over two lines and holds a backslash, a bell and letters beyond ASCII. -/
def oddTree : Entry :=
  .directory [("main.tf", .file (some "resource \"azurerm_key_vault\" \"ü\\\n\x07\" \x7b\x7d\n"))]

theorem oddTree_found : Audit.run .standard .tags oddTree ["main.tf"] =
    .ok [⟨"main.tf", [⟨.missingTags, "azurerm_key_vault.ü\\\n\x07",
      "Resource 'azurerm_key_vault.ü\\\n\x07' is missing tags block"⟩]⟩] := by
  decide +kernel

theorem oddTree_reads_back :
    ∃ document data, (run Text.noProperties ["--json", "tags", "main.tf"] []
        { tree := oddTree }).out = document ++ "\n" ∧
      Json.read document = .ok (.object [("data", data), ("ok", .bool false)]) ∧
      Report.ofJson? data = some [⟨"main.tf", [⟨.missingTags, "azurerm_key_vault.ü\\\n\x07",
        "Resource 'azurerm_key_vault.ü\\\n\x07' is missing tags block"⟩]⟩] := by
  have asked : invocation ["--json", "tags", "main.tf"] =
      .ok ⟨none, true, .audit .tags ["main.tf"] "."⟩ := rfl
  have one : (run Text.noProperties ["--json", "tags", "main.tf"] []
      { tree := oddTree }).code = 1 := by
    rw [run_default asked]
    decide +kernel
  obtain ⟨policy, document, data, inUse, out, _, _, read, tells⟩ :=
    json_output_reads_back asked rfl rfl (.inr one)
  refine ⟨document, data, out, by simpa [one] using read, ?_⟩
  have standard : policyFor Text.noProperties oddTree none = .ok .standard := policyFor_default
  obtain rfl := Except.ok.inj (standard.symm.trans inUse)
  cases tells with
  | audit listed reported told =>
    have found : sources { tree := oddTree } ["main.tf"] "." = .ok ["main.tf"] := rfl
    obtain rfl := Except.ok.inj (found.symm.trans listed)
    obtain rfl := Except.ok.inj (oddTree_found.symm.trans reported)
    exact told

end Command
end InfraLint
