import InfraLint.Audit.Audit
import InfraLint.Json.Print
import InfraLint.Tree.Discovery

/-!
Reports: the findings of an audit, file by file, as text and as JSON.
-/
namespace InfraLint
open Source

structure FileReport where
  path : String
  findings : List Finding
  deriving DecidableEq, Repr

abbrev Report := List FileReport

structure ReadError where
  path : String
  cause : PathError
  deriving DecidableEq, Repr

def ReadError.message (e : ReadError) : String :=
  "Failed to read " ++ Native.shown e.path ++ ": " ++ e.cause.message

namespace Audit

def languageOf? (path : String) : Option Language :=
  (Path.extension? path).bind Language.ofExtension?

def checkFile (policy : Policy) (audit : Audit) (tree : Entry) (path : String) :
    Except ReadError (List Finding) :=
  match languageOf? path with
  | none => .ok []
  | some language =>
    match tree.read path with
    | .error cause => .error ⟨path, cause⟩
    | .ok content =>
      .ok (audit.findings policy language (Native.shown ((Path.fileName? path).getD "")) content)

/-- The reports for the given files. Paths that do not exist, or are of neither language, are
passed over; the first file that cannot be read ends the audit. -/
def run (policy : Policy) (audit : Audit) (tree : Entry) : List String → Except ReadError Report
  | [] => .ok []
  | path :: paths =>
    if !tree.contains path || (languageOf? path).isNone then run policy audit tree paths
    else do
      let findings ← audit.checkFile policy tree path
      return ⟨path, findings⟩ :: (← run policy audit tree paths)

end Audit

namespace Report

def findings (report : Report) : List Finding := report.flatMap (·.findings)

def total (report : Report) : Nat := report.findings.length

def passed (report : Report) : Bool := report.total = 0

def fileLines (audit : Audit) (file : FileReport) : List String :=
  let path := Native.shown file.path
  ("Checking " ++ audit.wording.checking ++ " in: " ++ path) ::
    if file.findings.isEmpty then ["  ✓ No " ++ audit.wording.clean ++ " issues found"]
    else
      ("  Issues found in " ++ path ++ ":") ::
        file.findings.map fun finding => "    - " ++ finding.message

def summaryLines (audit : Audit) (rules : RuleSet) (report : Report) : List String :=
  if report.passed then ["", "✓ " ++ audit.wording.success]
  else
    ["", "Total " ++ audit.wording.total ++ " issues: " ++ toString report.total, ""] ++
      audit.guidelines rules

def unlines (lines : List String) : String := "".intercalate (lines.map (· ++ "\n"))

def text (audit : Audit) (rules : RuleSet) (report : Report) : String :=
  unlines (report.flatMap (fileLines audit) ++ summaryLines audit rules report)

def findingJson (f : Finding) : Json :=
  .object [("kind", .string f.kind.label), ("subject", .string f.subject),
    ("message", .string f.message)]

def fileJson (file : FileReport) : Json :=
  .object [("path", .string file.path), ("findings", .array (file.findings.map findingJson))]

def toJson (report : Report) : Json :=
  .object [("files", .array (report.map fileJson))]

def isWritable (report : Report) : Bool := report.all fun file => Native.isUtf8 file.path

end Report
end InfraLint
