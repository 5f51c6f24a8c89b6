import InfraLint.Json.Value
import InfraLint.Policy.RuleSet

/-!
Rule sets as JSON values, with all of their fields.
-/
namespace InfraLint

namespace RuleSet

def texts (values : List String) : Json := .array (values.map .string)

def namingJson (r : NamingRules) : Json := .object [
  ("generic_names", texts r.genericNames),
  ("terraform_resource_pattern", .string r.terraformPattern),
  ("bicep_resource_pattern", .string r.bicepPattern),
  ("azure_name_pattern", .string r.azurePattern),
  ("storage_name_pattern", .string r.storagePattern),
  ("storage_marker", .string r.storageMarker),
  ("storage_resource_types", texts r.storageTypes),
  ("require_name", .bool r.requireName)]

def tagsJson (r : TagRules) : Json := .object [("exempt_resource_types", texts r.exemptTypes)]

def securityJson (r : SecurityRules) : Json := .object [
  ("min_backup_retention_days", .int r.minBackupDays),
  ("storage_account_tier", .string r.storageTier),
  ("storage_replication_types", texts r.storageReplications),
  ("min_soft_delete_retention_days", .int r.minSoftDeleteDays),
  ("key_vault_skus", texts r.keyVaultSkus)]

def toJson (r : RuleSet) : Json := .object [
  ("version", .string r.version),
  ("required_tags", texts r.requiredTags),
  ("expected_project", .string r.expectedProject),
  ("managed_by_values", texts r.managedByValues),
  ("environment_values", texts r.environmentValues),
  ("naming", namingJson r.naming),
  ("tags", tagsJson r.tags),
  ("security", securityJson r.security)]

end RuleSet
end InfraLint
