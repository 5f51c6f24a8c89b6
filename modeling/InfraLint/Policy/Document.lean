import InfraLint.Policy.Policy
import InfraLint.Yaml.Typed
import InfraLint.Yaml.Writer

/-!
Rule sets as YAML documents. A document lists the fields that differ from the defaults; a rule
set is written with all of its fields.
-/
namespace InfraLint
open Yaml Decoder

namespace RuleSet

def namingFields : Fields NamingRules
  | "generic_names" => into (list string) fun v r => { r with genericNames := v }
  | "terraform_resource_pattern" => into string fun v r => { r with terraformPattern := v }
  | "bicep_resource_pattern" => into string fun v r => { r with bicepPattern := v }
  | "azure_name_pattern" => into string fun v r => { r with azurePattern := v }
  | "storage_name_pattern" => into string fun v r => { r with storagePattern := v }
  | "storage_marker" => into string fun v r => { r with storageMarker := v }
  | "storage_resource_types" => into (list string) fun v r => { r with storageTypes := v }
  | "require_name" => into boolean fun v r => { r with requireName := v }
  | _ => none

def tagFields : Fields TagRules
  | "exempt_resource_types" => into (list string) fun v r => { r with exemptTypes := v }
  | _ => none

def securityFields : Fields SecurityRules
  | "min_backup_retention_days" => into integer fun v r => { r with minBackupDays := v }
  | "storage_account_tier" => into string fun v r => { r with storageTier := v }
  | "storage_replication_types" =>
    into (list string) fun v r => { r with storageReplications := v }
  | "min_soft_delete_retention_days" => into integer fun v r => { r with minSoftDeleteDays := v }
  | "key_vault_skus" => into (list string) fun v r => { r with keyVaultSkus := v }
  | _ => none

def fields : Fields RuleSet
  | "version" => into string fun v r => { r with version := v }
  | "required_tags" => into (list string) fun v r => { r with requiredTags := v }
  | "expected_project" => into string fun v r => { r with expectedProject := v }
  | "managed_by_values" => into (list string) fun v r => { r with managedByValues := v }
  | "environment_values" => into (list string) fun v r => { r with environmentValues := v }
  | "naming" => into (record "NamingRules" {} namingFields) fun v r => { r with naming := v }
  | "tags" => into (record "TagRules" {} tagFields) fun v r => { r with tags := v }
  | "security" =>
    into (record "SecurityRules" {} securityFields) fun v r => { r with security := v }
  | _ => none

def ofYaml (text : String) : Except Yaml.Error RuleSet :=
  Yaml.read (record "RuleSet" {} fields) {} text

open Layout in
def members (r : RuleSet) : List (String × Layout) := [
  ("version", text r.version),
  ("required_tags", list r.requiredTags),
  ("expected_project", text r.expectedProject),
  ("managed_by_values", list r.managedByValues),
  ("environment_values", list r.environmentValues),
  ("naming", record [
    ("generic_names", list r.naming.genericNames),
    ("terraform_resource_pattern", text r.naming.terraformPattern),
    ("bicep_resource_pattern", text r.naming.bicepPattern),
    ("azure_name_pattern", text r.naming.azurePattern),
    ("storage_name_pattern", text r.naming.storagePattern),
    ("storage_marker", text r.naming.storageMarker),
    ("storage_resource_types", list r.naming.storageTypes),
    ("require_name", word (toString r.naming.requireName))]),
  ("tags", record [("exempt_resource_types", list r.tags.exemptTypes)]),
  ("security", record [
    ("min_backup_retention_days", word (toString r.security.minBackupDays)),
    ("storage_account_tier", text r.security.storageTier),
    ("storage_replication_types", list r.security.storageReplications),
    ("min_soft_delete_retention_days", word (toString r.security.minSoftDeleteDays)),
    ("key_vault_skus", list r.security.keyVaultSkus)])]

def toYaml (r : RuleSet) : String := Layout.writeDocument r.members

end RuleSet

inductive PolicyError where
  | yaml (error : Yaml.Error)
  | pattern (field : String)
  deriving DecidableEq, Repr

def Policy.ofYaml (table : Text.PropertyTable) (text : String) : Except PolicyError Policy :=
  match RuleSet.ofYaml text with
  | .error e => .error (.yaml e)
  | .ok rules =>
    match Policy.ofRules table rules with
    | .error field => .error (.pattern field)
    | .ok policy => .ok policy

end InfraLint
