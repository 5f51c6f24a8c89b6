import InfraLint.Proofs.Json.Members
import InfraLint.Resource.Catalogue

/-!
Interpolated values in the checks of resources. A value that is known only when the plan is
applied is not judged: a check that passes goes on passing when such a value takes the place of
another. The policy for backups is the one exception, because it must be an object.
-/
namespace InfraLint
open Source

/-- The attributes with another value for one key, as it stands. -/
def Attributes.replace (key : String) (value : Json) (as : Attributes) : Attributes :=
  ⟨as.members.insert key value⟩

/-- A text with an interpolation, bare or wrapped in a list of one. -/
inductive Interpolation : Json → Prop where
  | bare {s : String} (marked : isInterpolated s = true) : Interpolation (.string s)
  | wrapped {s : String} (marked : isInterpolated s = true) : Interpolation (.array [.string s])

theorem unwrapped_interpolation {value : Json} (h : Interpolation value) :
    ∃ s, value.unwrapped = .string s ∧ isInterpolated s = true := by
  cases h with
  | bare marked => exact ⟨_, rfl, marked⟩
  | wrapped marked => exact ⟨_, rfl, marked⟩

theorem get?_replace_self (key : String) (value : Json) (as : Attributes) :
    (as.replace key value).get? key = some value.unwrapped := by
  simp [Attributes.get?, Attributes.replace, Members.get?_insert]

theorem get?_replace_of_ne {key k : String} (other : key ≠ k) (value : Json) (as : Attributes) :
    (as.replace k value).get? key = as.get? key := by
  simp [Attributes.get?, Attributes.replace, Members.get?_insert, other]

namespace Requirement

variable {policy : Policy} (kind : String) {key : String} {as : Attributes} {value : Json}

theorem acceptsText_interpolated {s : String} (marked : isInterpolated s = true)
    (accept : String → Bool) : acceptsText accept (.string s) = true := by
  simp [acceptsText, marked]

theorem isTruthy_interpolated {s : String} (marked : isInterpolated s = true) :
    (Json.string s).isTruthy = true := by
  simp [Json.isTruthy, Json.unwrapped, marked]

theorem atLeast_interpolated (h : Interpolation value) (min : Int) :
    (Quantity.ofJson value).atLeast min = true := by
  obtain ⟨s, unwraps, marked⟩ := unwrapped_interpolation h
  simp [Quantity.ofJson, unwraps, Quantity.ofString, marked, Quantity.atLeast]

theorem atLeast_interpolated_text {s : String} (marked : isInterpolated s = true) (min : Int) :
    (Quantity.ofJson (.string s)).atLeast min = true :=
  atLeast_interpolated (.bare marked) min

/-- What is asked of one attribute stays true when the others are left alone and the new value of
this one is accepted. -/
theorem ifSet_replace {k : String} {accept : Json → Bool} (passes : ifSet k accept as = true)
    (accepted : accept value.unwrapped = true) :
    ifSet k accept (as.replace key value) = true := by
  unfold ifSet at passes ⊢
  by_cases same : k = key
  · subst same
    rw [get?_replace_self]
    simpa using accepted
  · rw [get?_replace_of_ne same]
    exact passes

theorem naming_replace (h : Interpolation value) (passes : naming policy kind as = true) :
    naming policy kind (as.replace key value) = true := by
  obtain ⟨s, unwraps, marked⟩ := unwrapped_interpolation h
  unfold naming at passes ⊢
  by_cases same : "name" = key
  · subst same
    rw [get?_replace_self, unwraps]
    exact acceptsText_interpolated marked _
  · rw [get?_replace_of_ne same]
    exact passes

theorem tags_replace (h : Interpolation value) (passes : tags policy kind as = true) :
    tags policy kind (as.replace key value) = true := by
  obtain ⟨s, unwraps, marked⟩ := unwrapped_interpolation h
  unfold tags at passes ⊢
  by_cases same : "tags" = key
  · subst same
    rw [get?_replace_self, unwraps]
    exact marked
  · rw [get?_replace_of_ne same]
    exact passes

theorem storage_replace (h : Interpolation value) (passes : storage policy kind as = true) :
    storage policy kind (as.replace key value) = true := by
  obtain ⟨s, unwraps, marked⟩ := unwrapped_interpolation h
  simp only [storage, Bool.and_eq_true] at passes ⊢
  obtain ⟨⟨tier, replication⟩, httpsOnly⟩ := passes
  refine ⟨⟨ifSet_replace tier ?_, ifSet_replace replication ?_⟩, ifSet_replace httpsOnly ?_⟩
  · rw [unwraps]
    exact acceptsText_interpolated marked _
  · rw [unwraps]
    exact acceptsText_interpolated marked _
  · rw [unwraps]
    exact isTruthy_interpolated marked

theorem keyVault_replace (h : Interpolation value) (passes : keyVault policy kind as = true) :
    keyVault policy kind (as.replace key value) = true := by
  obtain ⟨s, unwraps, marked⟩ := unwrapped_interpolation h
  simp only [keyVault, Bool.and_eq_true] at passes ⊢
  obtain ⟨retention, sku⟩ := passes
  constructor
  · by_cases same : "soft_delete_retention_days" = key
    · subst same
      rw [get?_replace_self, unwraps]
      exact atLeast_interpolated_text marked _
    · rw [get?_replace_of_ne same]
      exact retention
  · refine ifSet_replace sku ?_
    rw [unwraps]
    exact acceptsText_interpolated marked _

/-- A policy for backups that is no object fails, whatever it will turn out to be. -/
theorem backup_replace (h : Interpolation value) (passes : backup policy kind as = true) :
    backup policy kind (as.replace key value) = true ↔ key ≠ "short_term_retention_policy" := by
  obtain ⟨s, unwraps, marked⟩ := unwrapped_interpolation h
  unfold backup at passes ⊢
  by_cases same : "short_term_retention_policy" = key
  · subst same
    rw [get?_replace_self, unwraps]
    simp
  · rw [get?_replace_of_ne same]
    simp [passes, Ne.symm same]

theorem tags_replace_project {tagMap : Members Json} {outer : Json}
    (h : Interpolation value) (passes : tags policy kind as = true)
    (given : as.get? "tags" = some (.object tagMap))
    (exchanged : outer.unwrapped = .object (tagMap.insert "Project" value)) :
    tags policy kind (as.replace "tags" outer) = true := by
  obtain ⟨s, unwraps, marked⟩ := unwrapped_interpolation h
  simp only [tags, given, tagsComplete, Bool.and_eq_true, List.all_eq_true] at passes
  obtain ⟨required, _⟩ := passes
  simp only [tags, get?_replace_self, exchanged, tagsComplete, Bool.and_eq_true,
    List.all_eq_true]
  constructor
  · intro tag member
    rw [Members.contains_insert, required tag member, Bool.or_true]
  · rw [Members.get?_insert, if_pos rfl, Option.all_some, unwraps]
    exact acceptsText_interpolated marked _

theorem backup_replace_days {retention : Members Json} {outer : Json}
    (h : Interpolation value)
    (exchanged : outer.unwrapped = .object (retention.insert "retention_days" value)) :
    backup policy kind (as.replace "short_term_retention_policy" outer) = true := by
  simp only [backup, get?_replace_self, exchanged, Members.get?_insert, if_true]
  exact atLeast_interpolated h _

/- Which attributes a check looks at. A change elsewhere cannot be seen by it. -/
def Reads (keys : List String) (requirement : Requirement) : Prop :=
  ∀ policy kind as bs, (∀ key ∈ keys, Attributes.get? key as = Attributes.get? key bs) →
    requirement policy kind as = requirement policy kind bs

theorem reads_replace {keys : List String} {requirement : Requirement}
    (reads : Reads keys requirement) (unread : key ∉ keys)
    (passes : requirement policy kind as = true) :
    requirement policy kind (as.replace key value) = true := by
  rw [← passes]
  apply reads
  intro k member
  apply get?_replace_of_ne
  intro same
  subst same
  exact unread member

theorem reads_naming : Reads ["name"] naming := by
  intro policy kind as bs agree
  simp only [naming, agree "name" (by simp)]

theorem reads_tags : Reads ["tags"] tags := by
  intro policy kind as bs agree
  simp only [tags, agree "tags" (by simp)]

theorem reads_backup : Reads ["short_term_retention_policy"] backup := by
  intro policy kind as bs agree
  simp only [backup, agree "short_term_retention_policy" (by simp)]

theorem reads_storage :
    Reads ["account_tier", "account_replication_type", "enable_https_traffic_only"] storage := by
  intro policy kind as bs agree
  simp only [storage, ifSet, agree "account_tier" (by simp),
    agree "account_replication_type" (by simp), agree "enable_https_traffic_only" (by simp)]

theorem reads_keyVault : Reads ["soft_delete_retention_days", "sku_name"] keyVault := by
  intro policy kind as bs agree
  simp only [keyVault, ifSet, agree "soft_delete_retention_days" (by simp),
    agree "sku_name" (by simp)]

end Requirement

section Builtin
open Requirement

variable {check : Check} {policy : Policy} {kind : String} {as : Attributes} {value : Json}

theorem builtin_cases (builtin : check ∈ Catalogue.builtin) :
    check = .naming ∨ check = .tags ∨ check = .backup ∨ check = .storage ∨
      check = .keyVault := by
  simpa [Catalogue.builtin] using builtin

theorem builtin_replace (builtin : check ∈ Catalogue.builtin)
    (passes : check.passes policy kind as = true) (h : Interpolation value) (key : String) :
    check.passes policy kind (as.replace key value) = true ↔
      ¬(check.id = "CKV_AZURE_BIDONE_003" ∧ key = "short_term_retention_policy") := by
  rcases builtin_cases builtin with rfl | rfl | rfl | rfl | rfl
  · exact iff_of_true (naming_replace kind h passes) (by simp [Check.naming])
  · exact iff_of_true (tags_replace kind h passes) (by simp [Check.tags])
  · simpa [Check.backup] using backup_replace kind h passes
  · exact iff_of_true (storage_replace kind h passes) (by simp [Check.storage])
  · exact iff_of_true (keyVault_replace kind h passes) (by simp [Check.keyVault])

theorem builtin_replace_project (builtin : check ∈ Catalogue.builtin)
    (passes : check.passes policy kind as = true) (h : Interpolation value)
    {tagMap : Members Json} {outer : Json} (given : as.get? "tags" = some (.object tagMap))
    (exchanged : outer.unwrapped = .object (tagMap.insert "Project" value)) :
    check.passes policy kind (as.replace "tags" outer) = true := by
  rcases builtin_cases builtin with rfl | rfl | rfl | rfl | rfl
  · exact reads_replace kind reads_naming (by decide) passes
  · exact tags_replace_project kind h passes given exchanged
  · exact reads_replace kind reads_backup (by decide) passes
  · exact reads_replace kind reads_storage (by decide) passes
  · exact reads_replace kind reads_keyVault (by decide) passes

theorem builtin_replace_days (builtin : check ∈ Catalogue.builtin)
    (passes : check.passes policy kind as = true) (h : Interpolation value)
    {retention : Members Json} {outer : Json}
    (exchanged : outer.unwrapped = .object (retention.insert "retention_days" value)) :
    check.passes policy kind (as.replace "short_term_retention_policy" outer) = true := by
  rcases builtin_cases builtin with rfl | rfl | rfl | rfl | rfl
  · exact reads_replace kind reads_naming (by decide) passes
  · exact reads_replace kind reads_tags (by decide) passes
  · exact backup_replace_days kind h exchanged
  · exact reads_replace kind reads_storage (by decide) passes
  · exact reads_replace kind reads_keyVault (by decide) passes

/-- No built-in check judges an interpolation, in place of an attribute or as an entry of the tags
or of the backup policy, but for the backup check, which never passes one in place of the whole
policy. -/
theorem builtin_passes_interpolation_iff (builtin : check ∈ Catalogue.builtin)
    (passes : check.passes policy kind as = true) (h : Interpolation value) :
    (∀ key, check.passes policy kind (as.replace key value) = true ↔
      ¬(check.id = "CKV_AZURE_BIDONE_003" ∧ key = "short_term_retention_policy")) ∧
    (∀ (tagMap : Members Json) outer, as.get? "tags" = some (.object tagMap) →
      outer.unwrapped = .object (tagMap.insert "Project" value) →
      check.passes policy kind (as.replace "tags" outer) = true) ∧
    (∀ (retention : Members Json) outer,
      as.get? "short_term_retention_policy" = some (.object retention) →
      outer.unwrapped = .object (retention.insert "retention_days" value) →
      check.passes policy kind (as.replace "short_term_retention_policy" outer) = true) := by
  refine ⟨builtin_replace builtin passes h, ?_, ?_⟩
  · intro tagMap outer given exchanged
    exact builtin_replace_project builtin passes h given exchanged
  · intro retention outer _ exchanged
    exact builtin_replace_days builtin passes h exchanged

end Builtin

/-- A database whose backups are kept for a week. -/
def weekOfBackups : Attributes :=
  ⟨[("short_term_retention_policy", .object [("retention_days", .int 7)])]⟩

theorem weekOfBackups_passes :
    Check.backup.passes .standard "azurerm_mssql_database" weekOfBackups = true := by
  decide +kernel

theorem weekOfBackups_interpolated_days :
    Check.backup.passes .standard "azurerm_mssql_database"
      (weekOfBackups.replace "short_term_retention_policy"
        (.object [("retention_days", .string "$\x7bvar.days\x7d")])) = true := by
  have builtin : Check.backup ∈ Catalogue.builtin := by simp [Catalogue.builtin]
  have days : Interpolation (.string "$\x7bvar.days\x7d") := .bare (by decide +kernel)
  have nested := (builtin_passes_interpolation_iff builtin weekOfBackups_passes days).2.2
  exact nested [("retention_days", .int 7)] _ rfl rfl

theorem interpolated_backup_policy_fails :
    ¬∀ check ∈ Catalogue.builtin, ∀ policy kind as, check.passes policy kind as = true →
      ∀ key, as.contains key = true → ∀ value, Interpolation value →
        check.passes policy kind (as.replace key value) = true := by
  intro neverJudged
  have builtin : Check.backup ∈ Catalogue.builtin := by simp [Catalogue.builtin]
  have whole : Interpolation (.string "$\x7bvar.policy\x7d") := .bare (by decide +kernel)
  have passes := neverJudged _ builtin .standard _ _ weekOfBackups_passes
    "short_term_retention_policy" (by decide +kernel) _ whole
  have fails : Check.backup.passes .standard "azurerm_mssql_database"
      (weekOfBackups.replace "short_term_retention_policy"
        (.string "$\x7bvar.policy\x7d")) = false := by
    decide +kernel
  simp [fails] at passes

end InfraLint
