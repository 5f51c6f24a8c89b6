import InfraLint.Audit.Finding
import InfraLint.Policy.Policy
import InfraLint.Source.Assignment
import InfraLint.Source.ProjectTag

/-!
The naming audit: identifiers of resources, and in Terraform the literal values that are assigned
to names.
-/
namespace InfraLint.Audit.Naming
open Source

def noun : Language → String
  | .terraform => "Resource"
  | .bicep => "Bicep resource"

def casing : Language → String
  | .terraform => "snake_case"
  | .bicep => "camelCase"

def declarationFindings (policy : Policy) (d : Declaration) : List Finding :=
  let label := noun d.language ++ " '" ++ d.name ++ "'"
  let casing := if policy.isResourceName d.language d.name then [] else
    [⟨.resourceNaming, d.name, label ++ " should use " ++ casing d.language ++ " naming"⟩]
  let generic := if policy.rules.isGenericName d.name then
    [⟨.genericName, d.name, label ++ " should have a more descriptive name"⟩] else []
  casing ++ generic

def isStorageVariable (rules : RuleSet) (target : String) : Bool :=
  !rules.naming.storageMarker.isEmpty && rules.naming.storageMarker.occursIn target

def storageNameMessage (value : String) : String :=
  "Storage account name '" ++ value ++ "' should be lowercase alphanumeric (3-24 characters)"

def resourceNameMessage (value : String) : String :=
  "Resource name '" ++ value ++ "' should follow pattern: project-service-environment-suffix"

/-- A name that is known only later is passed over, and so is a proper one. A single token that
would do for a storage account is taken for the value of an attribute, and for no name. -/
def assignmentFindings (policy : Policy) (a : Assignment) : List Finding :=
  if isInterpolated a.value || policy.isAzureName a.value then []
  else if isStorageVariable policy.rules a.target then
    if policy.isStorageName a.value then []
    else [⟨.nameValue, a.target, storageNameMessage a.value⟩]
  else if policy.isStorageName a.value then []
  else [⟨.nameValue, a.target, resourceNameMessage a.value⟩]

def findings (policy : Policy) (language : Language) (content : String) : List Finding :=
  (declarations language content).flatMap (declarationFindings policy) ++
    match language with
    | .terraform => (assignments content).flatMap (assignmentFindings policy)
    | .bicep => []

end InfraLint.Audit.Naming
