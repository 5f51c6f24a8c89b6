import InfraLint.Text.Search

/-!
Rule sets: what an organisation asks of the names, tags and settings of its resources. Every
field has a default, so a rule set only says what differs.
-/
namespace InfraLint

structure NamingRules where
  genericNames : List String := ["main", "this", "example", "test"]
  terraformPattern : String := "^[a-z0-9_]+$"
  bicepPattern : String := "^[a-z][a-zA-Z0-9]*$"
  azurePattern : String := "^[a-zA-Z0-9]+-[a-zA-Z0-9]+-[a-zA-Z0-9]+-[a-zA-Z0-9]+$"
  storagePattern : String := "^[a-z0-9]\x7b3,24\x7d$"
  /-- A variable with this text in its name holds the name of a storage account. -/
  storageMarker : String := "storage"
  storageTypes : List String := ["azurerm_storage_account"]
  requireName : Bool := false
  deriving DecidableEq, Repr

structure TagRules where
  exemptTypes : List String :=
    ["azurerm_resource_group", "random_", "data.", "Microsoft.Resources/resourceGroups"]
  deriving DecidableEq, Repr

structure SecurityRules where
  minBackupDays : Int := 7
  storageTier : String := "Standard"
  storageReplications : List String := ["LRS", "GRS", "RAGRS", "ZRS"]
  minSoftDeleteDays : Int := 7
  keyVaultSkus : List String := ["standard", "premium"]
  deriving DecidableEq, Repr

structure RuleSet where
  version : String := "1.0"
  requiredTags : List String := ["Environment", "Project", "ManagedBy"]
  expectedProject : String := "BidOne-Integration-Demo"
  managedByValues : List String := ["Terraform", "Bicep", "ARM"]
  environmentValues : List String := ["dev", "staging", "prod"]
  naming : NamingRules := {}
  tags : TagRules := {}
  security : SecurityRules := {}
  deriving DecidableEq, Repr

namespace RuleSet

def isGenericName (rules : RuleSet) (name : String) : Bool :=
  rules.naming.genericNames.contains name

def isTagExempt (rules : RuleSet) (kind : String) : Bool :=
  rules.tags.exemptTypes.any (·.occursIn kind)

def usesStorageNaming (rules : RuleSet) (kind : String) : Bool :=
  rules.naming.storageTypes.contains kind

def missingTags (rules : RuleSet) (text : String) : List String :=
  rules.requiredTags.filter fun tag => !tag.occursIn text

end RuleSet
end InfraLint
