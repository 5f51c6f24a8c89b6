import InfraLint.Audit.Audit
import InfraLint.Proofs.Policy.Standard
import InfraLint.Resource.Catalogue
import Mathlib.Data.List.Forall2

/-!
Stricter rules. A rule set that asks for more tags, exempts fewer types, calls more names generic
and allows fewer values never hides what a looser one reports: the findings on a source stay, with
their words and in their order, and a check that fails goes on failing.
-/
namespace InfraLint
open Source

/-- The second rule set asks for at least as much as the first, with the same patterns, project,
storage rules and thresholds. -/
structure Tightens (loose strict : RuleSet) : Prop where
  terraformPattern : strict.naming.terraformPattern = loose.naming.terraformPattern
  bicepPattern : strict.naming.bicepPattern = loose.naming.bicepPattern
  azurePattern : strict.naming.azurePattern = loose.naming.azurePattern
  storagePattern : strict.naming.storagePattern = loose.naming.storagePattern
  project : strict.expectedProject = loose.expectedProject
  tier : strict.security.storageTier = loose.security.storageTier
  marker : strict.naming.storageMarker = loose.naming.storageMarker
  storageTypes : strict.naming.storageTypes = loose.naming.storageTypes
  backupDays : strict.security.minBackupDays = loose.security.minBackupDays
  softDeleteDays : strict.security.minSoftDeleteDays = loose.security.minSoftDeleteDays
  required : loose.requiredTags.Sublist strict.requiredTags
  exempt : strict.tags.exemptTypes ⊆ loose.tags.exemptTypes
  generic : loose.naming.genericNames ⊆ strict.naming.genericNames
  replications : strict.security.storageReplications ⊆ loose.security.storageReplications
  skus : strict.security.keyVaultSkus ⊆ loose.security.keyVaultSkus
  requireName : loose.naming.requireName = true → strict.naming.requireName = true

/-- A policy with the same patterns and stricter rules. -/
structure Policy.Tightens (loose strict : Policy) : Prop where
  rules : InfraLint.Tightens loose.rules strict.rules
  terraformName : strict.terraformName = loose.terraformName
  bicepName : strict.bicepName = loose.bicepName
  azureName : strict.azureName = loose.azureName
  storageName : strict.storageName = loose.storageName

/-- Stricter rules make a policy whenever the looser ones do. -/
theorem policy_of_tightens {table : Text.PropertyTable} {loose strict : RuleSet} {policy : Policy}
    (tight : Tightens loose strict) (read : Policy.ofRules table loose = .ok policy) :
    ∃ stricter, Policy.ofRules table strict = .ok stricter ∧ policy.Tightens stricter := by
  obtain ⟨terraform, bicep, azure, storage, rfl⟩ := (Policy.ofRules_eq_ok table).mp read
  refine ⟨{ policy with rules := strict }, (Policy.ofRules_eq_ok table).mpr ?_,
    ⟨tight, rfl, rfl, rfl, rfl⟩⟩
  rw [tight.terraformPattern, tight.bicepPattern, tight.azurePattern, tight.storagePattern]
  exact ⟨terraform, bicep, azure, storage, rfl⟩

section Lists

/-- A list of conditions can only lose members when the conditions are filtered less. -/
theorem sublist_ite {α : Type} {p q : Prop} [Decidable p] [Decidable q] {xs : List α}
    (implies : p → q) : (if p then xs else []).Sublist (if q then xs else []) := by
  by_cases holds : p
  · simp [holds, implies holds]
  · simp [holds]

theorem flatMap_sublist {α β : Type} {f g : α → List β} (xs : List α)
    (each : ∀ x ∈ xs, (f x).Sublist (g x)) : (xs.flatMap f).Sublist (xs.flatMap g) := by
  induction xs with
  | nil => exact List.Sublist.refl []
  | cons x xs ih =>
    obtain ⟨first, rest⟩ := List.forall_mem_cons.mp each
    exact first.append (ih rest)

end Lists

namespace Tightens

variable {loose strict : RuleSet} (tight : Tightens loose strict)
include tight

theorem isTagExempt {kind : String} (exempt : strict.isTagExempt kind = true) :
    loose.isTagExempt kind = true := by
  simp only [RuleSet.isTagExempt, List.any_eq_true] at exempt ⊢
  obtain ⟨part, member, occurs⟩ := exempt
  exact ⟨part, tight.exempt member, occurs⟩

theorem isGenericName {name : String} (generic : loose.isGenericName name = true) :
    strict.isGenericName name = true := by
  simp only [RuleSet.isGenericName, List.contains_iff_mem] at generic ⊢
  exact tight.generic generic

theorem usesStorageNaming (kind : String) :
    strict.usesStorageNaming kind = loose.usesStorageNaming kind := by
  rw [RuleSet.usesStorageNaming, tight.storageTypes, RuleSet.usesStorageNaming]

theorem missingTags (text : String) :
    (loose.missingTags text).Sublist (strict.missingTags text) :=
  tight.required.filter _

end Tightens

/-! Findings on sources -/

namespace Audit.Tagging

variable {loose strict : RuleSet} (tight : Tightens loose strict)
include tight

theorem requiredFindings_sublist (d : Declaration) (tags : String) :
    (requiredFindings loose d tags).Sublist (requiredFindings strict d tags) := by
  unfold requiredFindings
  split
  · exact List.Sublist.refl []
  · exact (tight.missingTags tags).map _

theorem projectFindings_same (d : Declaration) (tags : String) :
    projectFindings strict d tags = projectFindings loose d tags := by
  simp only [projectFindings, tight.project]

/- An exempt block has no findings. Every other way out of the audit of a block is taken for both
   rule sets alike. -/
theorem blockFindings_sublist (b : Block) :
    (blockFindings loose b).Sublist (blockFindings strict b) := by
  by_cases exempt : loose.isTagExempt b.kind = true
  · simp [blockFindings, exempt]
  · have judged : ¬strict.isTagExempt b.kind = true := mt tight.isTagExempt exempt
    rw [Bool.not_eq_true] at exempt judged
    simp only [blockFindings, exempt, judged, Bool.false_eq_true, if_false]
    split
    · exact List.Sublist.refl _
    · split
      · rw [projectFindings_same tight]
        exact (requiredFindings_sublist tight _ _).append (List.Sublist.refl _)
      · exact List.Sublist.refl _

theorem variableFindings_sublist (content : String) :
    (variableFindings loose content).Sublist (variableFindings strict content) := by
  unfold variableFindings
  split
  · exact List.Sublist.refl []
  · exact (tight.missingTags _).map _

theorem findings_sublist (language : Language) (fileName content : String) :
    (findings loose language fileName content).Sublist
      (findings strict language fileName content) := by
  refine List.Sublist.append ?_ ?_
  · exact flatMap_sublist _ fun b _ => blockFindings_sublist tight b
  · split
    · exact variableFindings_sublist tight content
    · exact List.Sublist.refl []

end Audit.Tagging

namespace Audit.Naming

variable {loose strict : Policy} (tight : loose.Tightens strict)
include tight

theorem isResourceName_same (language : Language) (name : String) :
    strict.isResourceName language name = loose.isResourceName language name := by
  cases language <;> simp [Policy.isResourceName, tight.terraformName, tight.bicepName]

theorem declarationFindings_sublist (d : Declaration) :
    (declarationFindings loose d).Sublist (declarationFindings strict d) := by
  simp only [declarationFindings, isResourceName_same tight]
  exact (List.Sublist.refl _).append (sublist_ite tight.rules.isGenericName)

theorem assignmentFindings_same : assignmentFindings strict = assignmentFindings loose := by
  funext a
  simp only [assignmentFindings, isStorageVariable, Policy.isAzureName, Policy.isStorageName,
    tight.azureName, tight.storageName, tight.rules.marker]
  rfl

theorem findings_sublist (language : Language) (content : String) :
    (findings loose language content).Sublist (findings strict language content) := by
  refine List.Sublist.append ?_ ?_
  · exact flatMap_sublist _ fun d _ => declarationFindings_sublist tight d
  · cases language with
    | bicep => exact List.Sublist.refl []
    | terraform =>
      rw [assignmentFindings_same tight]

end Audit.Naming

/-! Checks of resources -/

namespace Requirement

variable {loose strict : Policy} (tight : loose.Tightens strict) (kind : String) {as : Attributes}

theorem acceptsText_mono {few many : String → Bool}
    (implies : ∀ s, few s = true → many s = true) {value : Json}
    (accepted : acceptsText few value = true) : acceptsText many value = true := by
  cases value with
  | string s =>
    simp only [acceptsText, Bool.or_eq_true] at accepted ⊢
    exact accepted.imp_right (implies s)
  | _ => exact accepted

theorem ifSet_mono {key : String} {few many : Json → Bool}
    (implies : ∀ value, few value = true → many value = true)
    (accepted : ifSet key few as = true) : ifSet key many as = true := by
  unfold ifSet at accepted ⊢
  cases given : as.get? key with
  | none => rfl
  | some value =>
    rw [given] at accepted
    exact implies value accepted

include tight

theorem naming_mono (passes : naming strict kind as = true) : naming loose kind as = true := by
  have proper : isProperName strict kind = isProperName loose kind := by
    funext name
    simp only [isProperName, tight.rules.usesStorageNaming, Policy.isStorageName,
      Policy.isAzureName, tight.storageName, tight.azureName]
  unfold naming at passes ⊢
  split at passes
  · have optional : strict.rules.naming.requireName = false := by simpa using passes
    have looser := mt tight.rules.requireName (Bool.eq_false_iff.mp optional)
    simpa using looser
  · rwa [proper] at passes

theorem tags_mono (passes : tags strict kind as = true) : tags loose kind as = true := by
  unfold tags at passes ⊢
  split at passes
  · exact passes
  · simp only [tagsComplete, Bool.and_eq_true, List.all_eq_true, tight.rules.project]
      at passes ⊢
    obtain ⟨required, project⟩ := passes
    exact ⟨fun tag member => required tag (tight.rules.required.subset member), project⟩
  · exact passes

theorem backup_mono (passes : backup strict kind as = true) : backup loose kind as = true := by
  simpa only [backup, tight.rules.backupDays] using passes

theorem storage_mono (passes : storage strict kind as = true) : storage loose kind as = true := by
  simp only [storage, Bool.and_eq_true, tight.rules.tier] at passes ⊢
  obtain ⟨⟨tier, replication⟩, httpsOnly⟩ := passes
  refine ⟨⟨tier, ifSet_mono (fun _ => acceptsText_mono fun s accepted => ?_) replication⟩,
    httpsOnly⟩
  rw [List.contains_iff_mem] at accepted ⊢
  exact tight.rules.replications accepted

theorem keyVault_mono (passes : keyVault strict kind as = true) :
    keyVault loose kind as = true := by
  simp only [keyVault, Bool.and_eq_true, tight.rules.softDeleteDays] at passes ⊢
  obtain ⟨retention, sku⟩ := passes
  refine ⟨retention, ifSet_mono (fun _ => acceptsText_mono fun s accepted => ?_) sku⟩
  rw [List.contains_iff_mem] at accepted ⊢
  exact tight.rules.skus accepted

end Requirement

/-- The outcome of the same check, which has failed if it had failed before. -/
def Outcome.StaysFailed (before after : Outcome) : Prop :=
  after.checkId = before.checkId ∧ (before.passed = false → after.passed = false)

namespace Catalogue

variable {loose strict : Policy}

theorem builtin_mono (tight : loose.Tightens strict) {kind : String} {as : Attributes} :
    ∀ check ∈ Catalogue.builtin, check.passes strict kind as = true →
      check.passes loose kind as = true := by
  simp only [builtin, List.forall_mem_cons]
  refine ⟨?_, ?_, ?_, ?_, ?_, List.forall_mem_nil _⟩
  · exact Requirement.naming_mono tight kind
  · exact Requirement.tags_mono tight kind
  · exact Requirement.backup_mono tight kind
  · exact Requirement.storage_mono tight kind
  · exact Requirement.keyVault_mono tight kind

theorem builtin_stays_failed (tight : loose.Tightens strict) (kind : String) (as : Attributes) :
    List.Forall₂ Outcome.StaysFailed (Catalogue.builtin.evaluate loose kind as)
      (Catalogue.builtin.evaluate strict kind as) := by
  simp only [evaluate, List.forall₂_map_left_iff, List.forall₂_map_right_iff, List.forall₂_same]
  intro check applicable
  have builtin : check ∈ Catalogue.builtin := (List.mem_filter.mp applicable).1
  refine ⟨rfl, ?_⟩
  intro failed
  rw [← Bool.not_eq_true] at failed ⊢
  exact mt (builtin_mono tight check builtin) failed

end Catalogue

/-- Tightening the rules hides nothing. Rules that are stricter can still be read; both audits then
report at least what they did on every source, and every failed check of a resource still fails. -/
theorem tightening_hides_nothing {table : Text.PropertyTable} {loose strict : RuleSet}
    {policy : Policy} (tight : Tightens loose strict)
    (read : Policy.ofRules table loose = .ok policy) :
    ∃ stricter, Policy.ofRules table strict = .ok stricter ∧
      (∀ (audit : Audit) (language : Language) (fileName content : String),
        (audit.findings policy language fileName content).Sublist
          (audit.findings stricter language fileName content)) ∧
      ∀ (kind : String) (as : Attributes),
        List.Forall₂ Outcome.StaysFailed (Catalogue.builtin.evaluate policy kind as)
          (Catalogue.builtin.evaluate stricter kind as) := by
  obtain ⟨stricter, readable, tighter⟩ := policy_of_tightens tight read
  refine ⟨stricter, readable, ?_, Catalogue.builtin_stays_failed tighter⟩
  intro audit language fileName content
  cases audit with
  | naming => exact Audit.Naming.findings_sublist tighter language content
  | tags => exact Audit.Tagging.findings_sublist tighter.rules language fileName content

/- Rules that also ask for an owner and a name, and exempt less. -/
def ownedRules : RuleSet where
  requiredTags := ["Environment", "Project", "Owner", "ManagedBy"]
  naming := { genericNames := ["main", "tmp", "this", "example", "test"], requireName := true }
  tags := { exemptTypes := ["random_", "data."] }
  security := { keyVaultSkus := ["premium"] }

theorem ownedRules_tighten : Tightens {} ownedRules := by
  constructor <;> decide

theorem ownedRules_hide_nothing :
    ∃ stricter, Policy.ofRules Text.noProperties ownedRules = .ok stricter ∧
      [Finding.mk .missingTags "azurerm_key_vault.kv"
        "Resource 'azurerm_key_vault.kv' is missing tags block"].Sublist
          (Audit.tags.findings stricter .terraform "main.tf"
            "resource \"azurerm_key_vault\" \"kv\" \x7b\x7d\n") ∧
      List.Forall₂ Outcome.StaysFailed
        (Catalogue.builtin.evaluate .standard "azurerm_key_vault" .empty)
        (Catalogue.builtin.evaluate stricter "azurerm_key_vault" .empty) := by
  obtain ⟨stricter, readable, sources, resources⟩ :=
    tightening_hides_nothing ownedRules_tighten (Policy.ofRules_default Text.noProperties)
  refine ⟨stricter, readable, ?_, resources _ _⟩
  have kept := sources .tags .terraform "main.tf"
    "resource \"azurerm_key_vault\" \"kv\" \x7b\x7d\n"
  have reported : Audit.tags.findings .standard .terraform "main.tf"
      "resource \"azurerm_key_vault\" \"kv\" \x7b\x7d\n" =
        [⟨.missingTags, "azurerm_key_vault.kv",
          "Resource 'azurerm_key_vault.kv' is missing tags block"⟩] := by decide +kernel
  rwa [reported] at kept

end InfraLint
