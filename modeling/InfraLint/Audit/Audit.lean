import InfraLint.Audit.Naming
import InfraLint.Audit.Tagging

/-!
The two audits of source texts, and the words in which their reports speak.
-/
namespace InfraLint
open Source

inductive Audit where
  | naming
  | tags
  deriving DecidableEq, Repr

namespace Audit

def label : Audit → String
  | naming => "naming"
  | tags => "tags"

def ofLabel? (label : String) : Option Audit := [naming, tags].find? (·.label = label)

def findings (policy : Policy) (audit : Audit) (language : Language) (fileName content : String) :
    List Finding :=
  match audit with
  | naming => Naming.findings policy language content
  | tags => Tagging.findings policy.rules language fileName content

/-- The words of an audit: what it checks, what a clean file is free of, what its issues are
called in the total, and the line after a run without issues. -/
structure Wording where
  checking : String
  clean : String
  total : String
  success : String

def wording : Audit → Wording
  | naming =>
    ⟨"naming conventions", "naming", "naming convention", "All naming conventions are correct!"⟩
  | tags => ⟨"tags", "tag", "tag validation", "All tag validations passed!"⟩

def guidelines (rules : RuleSet) : Audit → List String
  | naming => [
    "Naming Convention Guidelines:",
    "- Terraform resources: use snake_case for resource names",
    "- Bicep resources: use camelCase for resource names",
    "- Azure resource names: use pattern project-service-environment-suffix",
    "- Storage accounts: use lowercase alphanumeric only (no hyphens)",
    "- Use descriptive names, avoid generic names like " ++
      ", ".intercalate (rules.naming.genericNames.map fun name => "'" ++ name ++ "'")]
  | tags => [
    "Required tags: " ++ ", ".intercalate rules.requiredTags,
    "",
    "Tag Guidelines:",
    "- All Azure resources must have the required tags",
    "- Project tag must be '" ++ rules.expectedProject ++ "'",
    "- ManagedBy tag should indicate the IaC tool used (" ++
      ", ".intercalate rules.managedByValues ++ ")",
    "- Environment tag should be one of: " ++ ", ".intercalate rules.environmentValues]

end Audit
end InfraLint
