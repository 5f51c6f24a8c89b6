import InfraLint.Policy.Document
import InfraLint.Proofs.Yaml.Decode

/-!
Rule sets in writing. Whatever texts and lists a rule set holds, reading the document that is
written for it gives the same rule set.
-/
namespace InfraLint
open Yaml Decoder Layout

/-- The minimums have 64 bits. -/
structure SecurityRules.Fits (r : SecurityRules) : Prop where
  backup : fitsSigned 64 r.minBackupDays = true
  softDelete : fitsSigned 64 r.minSoftDeleteDays = true

namespace RuleSet

/-! Every rule set that is read has such minimums -/

theorem fits_default : ({} : RuleSet).security.Fits := ⟨by decide, by decide⟩

theorem keeps_securityFields : Keeps securityFields SecurityRules.Fits := by
  intro key field isField
  unfold securityFields at isField
  split at isField
  · exact keeps_into isField yields_integer fun n r fits holds => ⟨fits, holds.softDelete⟩
  · exact keeps_other isField fun s r holds => ⟨holds.backup, holds.softDelete⟩
  · exact keeps_other isField fun s r holds => ⟨holds.backup, holds.softDelete⟩
  · exact keeps_into isField yields_integer fun n r fits holds => ⟨holds.backup, fits⟩
  · exact keeps_other isField fun s r holds => ⟨holds.backup, holds.softDelete⟩
  · simp at isField

theorem keeps_fields : Keeps fields fun r => r.security.Fits := by
  have security : Yields (record "SecurityRules" {} securityFields) SecurityRules.Fits :=
    yields_record keeps_securityFields fits_default
  intro key field isField
  unfold fields at isField
  split at isField
  case h_8 => exact keeps_into isField security fun security r fits _ => fits
  case h_9 => simp at isField
  all_goals exact keeps_other isField fun value r holds => holds

theorem fits_ofYaml {text : String} {r : RuleSet} (read : ofYaml text = .ok r) :
    r.security.Fits := by
  have yields : Yields (record "RuleSet" {} fields) fun r => r.security.Fits :=
    yields_record keeps_fields fits_default
  exact read_yields (p := fun r => r.security.Fits) yields fits_default read

/-! What is written -/

theorem reads_naming (r : NamingRules) : Reads (record "NamingRules" {} namingFields) (.record [
    ("generic_names", list r.genericNames),
    ("terraform_resource_pattern", text r.terraformPattern),
    ("bicep_resource_pattern", text r.bicepPattern),
    ("azure_name_pattern", text r.azurePattern),
    ("storage_name_pattern", text r.storagePattern),
    ("storage_marker", text r.storageMarker),
    ("storage_resource_types", list r.storageTypes),
    ("require_name", word (toString r.requireName))]) r := by
  refine reads_record ?_ (by simp)
  refine .cons (sets_into rfl (reads_list _)) ?_
  refine .cons (sets_into rfl (reads_string _)) ?_
  refine .cons (sets_into rfl (reads_string _)) ?_
  refine .cons (sets_into rfl (reads_string _)) ?_
  refine .cons (sets_into rfl (reads_string _)) ?_
  refine .cons (sets_into rfl (reads_string _)) ?_
  refine .cons (sets_into rfl (reads_list _)) ?_
  refine .cons (sets_into rfl (reads_boolean _)) ?_
  exact .nil r

theorem reads_tags (r : TagRules) : Reads (record "TagRules" {} tagFields)
    (.record [("exempt_resource_types", list r.exemptTypes)]) r :=
  reads_record (.cons (sets_into rfl (reads_list _)) (.nil r)) (by simp)

theorem reads_security {r : SecurityRules} (fits : r.Fits) :
    Reads (record "SecurityRules" {} securityFields) (.record [
      ("min_backup_retention_days", word (toString r.minBackupDays)),
      ("storage_account_tier", text r.storageTier),
      ("storage_replication_types", list r.storageReplications),
      ("min_soft_delete_retention_days", word (toString r.minSoftDeleteDays)),
      ("key_vault_skus", list r.keyVaultSkus)]) r := by
  refine reads_record ?_ (by simp)
  refine .cons (sets_into rfl (reads_integer fits.backup)) ?_
  refine .cons (sets_into rfl (reads_string _)) ?_
  refine .cons (sets_into rfl (reads_list _)) ?_
  refine .cons (sets_into rfl (reads_integer fits.softDelete)) ?_
  refine .cons (sets_into rfl (reads_list _)) ?_
  exact .nil r

theorem reads_members {r : RuleSet} (fits : r.security.Fits) :
    Reads (record "RuleSet" {} fields) (.record r.members) r := by
  refine reads_record ?_ (by simp [members])
  refine .cons (sets_into rfl (reads_string _)) ?_
  refine .cons (sets_into rfl (reads_list _)) ?_
  refine .cons (sets_into rfl (reads_string _)) ?_
  refine .cons (sets_into rfl (reads_list _)) ?_
  refine .cons (sets_into rfl (reads_list _)) ?_
  refine .cons (sets_into rfl (reads_naming _)) ?_
  refine .cons (sets_into rfl (reads_tags _)) ?_
  refine .cons (sets_into rfl (reads_security fits)) ?_
  exact .nil r

theorem sound_members (r : RuleSet) : AreSound r.members := by
  have backup := allowsPlain_integer r.security.minBackupDays
  have softDelete := allowsPlain_integer r.security.minSoftDeleteDays
  have requireName := allowsPlain_boolean r.naming.requireName
  simp +decide only [members, AreSound, IsSound, backup, softDelete, requireName, ne_eq,
    reduceCtorEq, not_false_eq_true, and_self]

/-- Whatever a rule set holds, what is written of it is read as that rule set. -/
theorem ofYaml_toYaml {r : RuleSet} (fits : r.security.Fits) : ofYaml r.toYaml = .ok r :=
  read_writeDocument (reads_members fits) (by simp [members]) (sound_members r)

end RuleSet
end InfraLint
