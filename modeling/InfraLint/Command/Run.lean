import InfraLint.Audit.Report
import InfraLint.Command.Arguments
import InfraLint.Policy.Document
import InfraLint.Resource.Plan
import InfraLint.Settings

/-!
Runs of the program over a tree of files. A run ends with code 0 if nothing is found, with 1 if
something is, and with 2 if it cannot be done; then nothing is written but an error. Texts of the
system need not be UTF-8: a variable of the environment that is not ends the run in a panic, and a
path that is not cannot be written as JSON.
-/
namespace InfraLint

/-- Why rules or a plan cannot be used. A failure tells its cause a second time behind its own
message. -/
inductive LoadError where
  | rulesUnreadable (path : String) (cause : PathError)
  | rulesNotYaml (error : Yaml.Error)
  | badPattern (field : String)
  | planUnreadable (path : String) (cause : PathError)
  | planNotJson (error : Json.Error)

namespace LoadError

def message : LoadError → String
  | rulesUnreadable path cause =>
    "Failed to read rules file " ++ Native.shown path ++ ": " ++ cause.message
  | rulesNotYaml error =>
    "Failed to parse YAML:" ++ error.fault.elim "" (" " ++ ·.text)
  | badPattern field =>
    "Failed to compile rule set: Invalid pattern for " ++ field ++ ": regex parse error:"
  | planUnreadable path cause =>
    "Failed to read plan " ++ Native.shown path ++ ": " ++ cause.message
  | planNotJson error => "Failed to parse plan JSON: " ++ error.message

def full : LoadError → String
  | rulesUnreadable path cause =>
    (rulesUnreadable path cause).message ++ ": " ++ cause.message
  | planUnreadable path cause => (planUnreadable path cause).message ++ ": " ++ cause.message
  | planNotJson error => (planNotJson error).message ++ ": " ++ error.message
  | other => other.message

end LoadError

def RuleSet.ofPath (tree : Entry) (path : String) : Except LoadError RuleSet :=
  match tree.read path with
  | .error cause => .error (.rulesUnreadable path cause)
  | .ok text =>
    match RuleSet.ofYaml text with
    | .error error => .error (.rulesNotYaml error)
    | .ok rules => .ok rules

def Plan.ofPath (tree : Entry) (path : String) : Except LoadError Plan :=
  match tree.read path with
  | .error cause => .error (.planUnreadable path cause)
  | .ok text =>
    match Plan.read text with
    | .error error => .error (.planNotJson error)
    | .ok plan => .ok plan

namespace Command

structure Result where
  code : Nat
  out : String
  err : String
  deriving DecidableEq, Repr

def Result.failure (message : String) : Result := ⟨2, "", "Error: " ++ message ++ "\n"⟩

/-- A run that ends in a panic. What it writes about it is left out. -/
def Result.panic : Result := ⟨101, "", ""⟩

def Result.done (passed : Bool) (out : String) : Result := ⟨if passed then 0 else 1, out, ""⟩

variable (table : Text.PropertyTable)

def policyFor (tree : Entry) (rules : Option String) : Except LoadError Policy := do
  let rules ← match rules with
    | some path => RuleSet.ofPath tree path
    | none => pure {}
  match Policy.ofRules table rules with
  | .ok policy => .ok policy
  | .error field => .error (.badPattern field)

def jsonOut (ok : Bool) (data : Json) : String :=
  (Json.object [("ok", .bool ok), ("data", data)]).print ++ "\n"

def sources (files : Files) (listed : List String) (base : String) :
    Except WalkError (List String) :=
  if listed.isEmpty then discover base files else .ok listed

def runAudit (policy : Policy) (json : Bool) (audit : Audit) (files : Files)
    (listed : List String) (base : String) : Result :=
  match sources files listed base with
  | .error e => .failure (e.message ++ ": " ++ e.cause)
  | .ok paths =>
    match audit.run policy files.tree paths with
    | .error e => .failure (e.message ++ ": " ++ e.cause.message)
    | .ok report =>
      if !json then .done report.passed (report.text audit policy.rules)
      else if report.isWritable then .done report.passed (jsonOut report.passed report.toJson)
      else .failure "path contains invalid UTF-8 characters"

/-! Evaluations -/

def outcomeJson (o : Outcome) : Json :=
  .object [("check_id", .string o.checkId), ("check_name", .string o.checkName),
    ("result", .string o.result)]

def resourceJson (r : ResourceOutcomes) : Json :=
  .object [("address", .string r.address), ("outcomes", .array (r.outcomes.map outcomeJson))]

def resourceLines (r : ResourceOutcomes) : List String :=
  r.outcomes.map fun o =>
    o.result ++ " " ++ o.checkId ++ " " ++ r.address ++ " (" ++ o.checkName ++ ")"

def failedCount (results : List ResourceOutcomes) : Nat :=
  (results.flatMap (·.failed)).length

def evaluatedCount (results : List ResourceOutcomes) : Nat :=
  (results.flatMap (·.outcomes)).length

def evaluationText (results : List ResourceOutcomes) : String :=
  let failed := failedCount results
  let evaluated := evaluatedCount results
  Report.unlines <| results.flatMap resourceLines ++ ["",
    if failed = 0 then "OK: " ++ toString evaluated ++ " checks passed"
    else "FAILED: " ++ toString failed ++ " of " ++ toString evaluated ++ " checks failed"]

def runEvaluate (policy : Policy) (json : Bool) (tree : Entry) (plan : String)
    (checks : List String) : Result :=
  match checks.find? fun id => (Catalogue.builtin.get? id).isNone with
  | some id => .failure ("Unknown check id: " ++ id)
  | none =>
    match Plan.ofPath tree plan with
    | .error e => .failure e.full
    | .ok plan =>
      let results := plan.evaluate Catalogue.builtin policy checks
      let passed := failedCount results = 0
      .done passed <|
        if json then jsonOut passed (.array (results.map resourceJson))
        else evaluationText results

/-! Checks and rules -/

def checkJson (c : Check) : Json :=
  .object [("id", .string c.id), ("name", .string c.name),
    ("categories", .array (c.categories.map .string)),
    ("supported_resources", .array (c.kinds.map .string))]

def checkLines (c : Check) : List String := [
  c.id ++ "  " ++ c.name,
  "    categories: " ++ ", ".intercalate c.categories,
  "    resources:  " ++ ", ".intercalate c.kinds]

def runChecks (json : Bool) : Result :=
  .done true <|
    if json then jsonOut true (.array (Catalogue.builtin.map checkJson))
    else Report.unlines (Catalogue.builtin.flatMap checkLines)

def runInvocation (i : Invocation) (files : Files) : Result :=
  match policyFor table files.tree i.rules with
  | .error e => .failure e.full
  | .ok policy =>
    match i.action with
    | .audit audit listed base => runAudit policy i.json audit files listed base
    | .evaluate plan checks => runEvaluate policy i.json files.tree plan checks
    | .checks => runChecks i.json
    | .rules => .done true policy.rules.toYaml

def usage : String :=
  "Usage: iac-policy [--rules <RULES>] [--json] <naming|tags|evaluate|checks|rules|help>\n"

def run (arguments : List String) (environment : List (String × String)) (files : Files) :
    Result :=
  match invocation arguments with
  | .error .information => ⟨0, usage, ""⟩
  | .error .misuse => ⟨2, "", usage⟩
  | .ok i =>
    match Settings.ofEnvironment environment with
    | .error (.duplicate name) =>
      ⟨2, "", "Invalid environment configuration: " ++ Settings.duplicateMessage name ++ "\n"⟩
    | .error .notUtf8 => .panic
    | .ok _ => runInvocation table i files

end Command
end InfraLint
