import InfraLint.Policy.Policy
import InfraLint.Resource.Quantity

/-!
Checks of one resource, by its type and attributes. The built-in ones look at names, tags, backup,
storage and key vault settings of Azure resources.
-/
namespace InfraLint
open Source

abbrev Requirement := Policy → String → Attributes → Bool

structure Check where
  id : String
  name : String
  categories : List String
  kinds : List String
  passes : Requirement

namespace Requirement

def acceptsText (accept : String → Bool) : Json → Bool
  | .string s => isInterpolated s || accept s
  | _ => false

def ifSet (key : String) (accept : Json → Bool) (as : Attributes) : Bool :=
  (as.get? key).all accept

def isProperName (policy : Policy) (kind name : String) : Bool :=
  if policy.rules.usesStorageNaming kind then policy.isStorageName name
  else policy.isAzureName name

def naming : Requirement := fun policy kind as =>
  match as.get? "name" with
  | none => !policy.rules.naming.requireName
  | some name => acceptsText (isProperName policy kind) name

def tagsComplete (rules : RuleSet) (tags : Members Json) : Bool :=
  rules.requiredTags.all (fun tag => Members.contains tag tags) &&
    (Members.get? "Project" tags).all fun project =>
      acceptsText (· == rules.expectedProject) project.unwrapped

def tags : Requirement := fun policy _ as =>
  match as.get? "tags" with
  | some (.string s) => isInterpolated s
  | some (.object tags) => tagsComplete policy.rules tags
  | _ => false

/-- A policy that says nothing about days keeps none. -/
def backup : Requirement := fun policy _ as =>
  match as.get? "short_term_retention_policy" with
  | some (.object retention) =>
    let days := match Members.get? "retention_days" retention with
      | some days => Quantity.ofJson days
      | none => .known (.ofInt 0)
    days.atLeast policy.rules.security.minBackupDays
  | _ => false

def storage : Requirement := fun policy _ as =>
  let security := policy.rules.security
  ifSet "account_tier" (acceptsText (· == security.storageTier)) as &&
    ifSet "account_replication_type" (acceptsText security.storageReplications.contains) as &&
    ifSet "enable_https_traffic_only" Json.isTruthy as

def keyVault : Requirement := fun policy _ as =>
  let security := policy.rules.security
  (as.get? "soft_delete_retention_days").any
      (fun days => (Quantity.ofJson days).atLeast security.minSoftDeleteDays) &&
    ifSet "sku_name" (acceptsText security.keyVaultSkus.contains) as

end Requirement

namespace Check

def naming : Check where
  id := "CKV_AZURE_BIDONE_001"
  name := "Ensure Azure resources follow BidOne naming convention"
  categories := ["CONVENTION"]
  kinds := ["azurerm_resource_group", "azurerm_storage_account", "azurerm_key_vault",
    "azurerm_sql_server", "azurerm_servicebus_namespace", "azurerm_cosmosdb_account",
    "azurerm_redis_cache"]
  passes := Requirement.naming

def tags : Check where
  id := "CKV_AZURE_BIDONE_002"
  name := "Ensure Azure resources have mandatory BidOne tags"
  categories := ["GENERAL_SECURITY"]
  kinds := ["azurerm_resource_group", "azurerm_storage_account", "azurerm_key_vault",
    "azurerm_sql_server", "azurerm_mssql_database", "azurerm_servicebus_namespace",
    "azurerm_cosmosdb_account", "azurerm_redis_cache", "azurerm_application_insights",
    "azurerm_log_analytics_workspace"]
  passes := Requirement.tags

def backup : Check where
  id := "CKV_AZURE_BIDONE_003"
  name := "Ensure Azure SQL Database has backup configuration"
  categories := ["BACKUP"]
  kinds := ["azurerm_mssql_database"]
  passes := Requirement.backup

def storage : Check where
  id := "CKV_AZURE_BIDONE_004"
  name := "Ensure Azure Storage Account has secure BidOne configuration"
  categories := ["STORAGE"]
  kinds := ["azurerm_storage_account"]
  passes := Requirement.storage

def keyVault : Check where
  id := "CKV_AZURE_BIDONE_005"
  name := "Ensure Azure Key Vault has secure BidOne configuration"
  categories := ["SECRETS"]
  kinds := ["azurerm_key_vault"]
  passes := Requirement.keyVault

end Check
end InfraLint
