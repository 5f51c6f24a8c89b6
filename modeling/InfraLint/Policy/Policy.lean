import InfraLint.Pattern.Read
import InfraLint.Pattern.Search
import InfraLint.Policy.RuleSet
import InfraLint.Source.Language

/-!
Policies: rule sets whose patterns have been read.
-/
namespace InfraLint
open Source Text

structure Policy where
  rules : RuleSet
  terraformName : Pattern
  bicepName : Pattern
  azureName : Pattern
  storageName : Pattern

namespace Policy

variable (table : PropertyTable)

def readPattern (field text : String) : Except String Pattern :=
  match Pattern.read? table text with
  | some p => .ok p
  | none => .error field

def ofRules (rules : RuleSet) : Except String Policy := do
  let naming := rules.naming
  let terraformName ← readPattern table "naming.terraform_resource_pattern" naming.terraformPattern
  let bicepName ← readPattern table "naming.bicep_resource_pattern" naming.bicepPattern
  let azureName ← readPattern table "naming.azure_name_pattern" naming.azurePattern
  let storageName ← readPattern table "naming.storage_name_pattern" naming.storagePattern
  return { rules, terraformName, bicepName, azureName, storageName }

theorem ofRules_eq_ok {rules : RuleSet} {policy : Policy} :
    ofRules table rules = .ok policy ↔
      readPattern table "naming.terraform_resource_pattern" rules.naming.terraformPattern =
          .ok policy.terraformName ∧
        readPattern table "naming.bicep_resource_pattern" rules.naming.bicepPattern =
          .ok policy.bicepName ∧
        readPattern table "naming.azure_name_pattern" rules.naming.azurePattern =
          .ok policy.azureName ∧
        readPattern table "naming.storage_name_pattern" rules.naming.storagePattern =
          .ok policy.storageName ∧
        rules = policy.rules := by
  obtain ⟨given, terraformName, bicepName, azureName, storageName⟩ := policy
  simp only [ofRules]
  generalize readPattern _ _ rules.naming.terraformPattern = terraform
  generalize readPattern _ _ rules.naming.bicepPattern = bicep
  generalize readPattern _ _ rules.naming.azurePattern = azure
  generalize readPattern _ _ rules.naming.storagePattern = storage
  cases terraform <;> cases bicep <;> cases azure <;> cases storage <;>
    simp [bind, Except.bind, pure, Except.pure]
  constructor
  · rintro ⟨same, rest⟩
    exact ⟨rest.1, rest.2.1, rest.2.2.1, rest.2.2.2, same⟩
  · rintro ⟨first, second, third, fourth, same⟩
    exact ⟨same, first, second, third, fourth⟩

/-- The default rules. Their patterns can be read, so the second branch is never taken. -/
def standard : Policy :=
  match ofRules noProperties {} with
  | .ok policy => policy
  | .error _ => ⟨{}, .empty, .empty, .empty, .empty⟩

def isResourceName (policy : Policy) (language : Language) (name : String) : Bool :=
  match language with
  | .terraform => policy.terraformName.isFoundIn name
  | .bicep => policy.bicepName.isFoundIn name

def isAzureName (policy : Policy) (value : String) : Bool := policy.azureName.isFoundIn value

def isStorageName (policy : Policy) (value : String) : Bool := policy.storageName.isFoundIn value

end Policy
end InfraLint
